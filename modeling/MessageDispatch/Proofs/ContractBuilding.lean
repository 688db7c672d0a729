import MessageDispatch.Proofs.Neighbours

/-!
# Building contracts

A contract is built of the declared methods followed by the identity methods whose kind is not among
them (`Contract.complete`), if all these have distinct names; otherwise the name reported is the one
that is first repeated. Identity methods are looked for by kind while names are what has to be
distinct, and the two agree since a declared identity method cannot be given another name
(`Method.Declared.name_of_identity`): so each of the three is in the contract once, under its name.
-/

namespace MessageDispatch

/-- The methods that can be declared. A method starts with its name and kind; what is added later
changes neither. -/
inductive Method.Declared : Method → Prop where
  | message (name : String) : Declared (.message { name := name })
  | identity (which : IdentityMethod) : Declared (.identity which)
  | provided (name : String) (body : Body) : Declared (.provided name body)
  | key {m : Method} (declared : Declared m) (key : String) :
      Declared ⟨{ m.signature with key := some key }, m.kind⟩
  | wording {m : Method} (declared : Declared m) (wording : Wording) :
      Declared ⟨{ m.signature with wordings := m.signature.wordings ++ [wording] }, m.kind⟩
  | parameter {m : Method} (declared : Declared m) (parameter : Parameter) :
      Declared ⟨{ m.signature with parameters := m.signature.parameters ++ [parameter] }, m.kind⟩
  | returning {m : Method} (declared : Declared m) (type : Ty) :
      Declared ⟨{ m.signature with returns := type }, m.kind⟩
  | mark {m : Method} (declared : Declared m) (marker : Value) :
      Declared ⟨m.signature.mark marker, m.kind⟩

/-- A declared identity method goes by the name of its kind. -/
theorem Method.Declared.name_of_identity {m : Method} (h : m.Declared) {which : IdentityMethod}
    (hk : m.kind = .identity which) : m.name = which.name := by
  induction h with
  | message | provided => cases hk
  | identity =>
    cases hk
    rfl
  | key _ _ ih | wording _ _ ih | parameter _ _ ih | returning _ _ ih | mark _ _ ih => exact ih hk

theorem MethodKind.eqB_identity_iff {kind : MethodKind} {which : IdentityMethod} :
    kind.eqB (.identity which) = true ↔ kind = .identity which := by
  cases kind <;> simp [eqB]

instance (kind : MethodKind) (which : IdentityMethod) : Decidable (kind = .identity which) :=
  decidable_of_iff _ MethodKind.eqB_identity_iff

/-- The name at a place occurs before it as well. -/
def RepeatsAt (names : List String) (i : Nat) : Prop :=
  ∃ name, names[i]? = some name ∧ name ∈ names.take i

theorem not_repeatsAt_iff {names : List String} {i : Nat} :
    ¬ RepeatsAt names i ↔ ∀ name, names[i]? = some name → name ∉ names.take i := by
  simp [RepeatsAt]

/-- The search finds the string at the least place whose string was seen or occurs before it. -/
theorem firstRepeat?_eq_some_iff {seen names : List String} {s : String} :
    firstRepeat? seen names = some s ↔
      ∃ i, names[i]? = some s ∧ s ∈ seen ++ names.take i ∧
        ∀ j < i, ∀ t, names[j]? = some t → t ∉ seen ++ names.take j := by
  induction names generalizing seen with
  | nil => simp [firstRepeat?]
  | cons n rest ih =>
    by_cases known : n ∈ seen
    · rw [firstRepeat?, if_pos known, Option.some.injEq]
      constructor
      · rintro rfl
        exact ⟨0, rfl, List.mem_append_left _ known, by simp⟩
      · rintro ⟨i, found, -, least⟩
        cases i with
        | zero => exact Option.some.inj found
        | succ i => exact absurd (List.mem_append_left _ known) (least 0 (by simp) n rfl)
    · -- Seen before the rest are the strings seen before and the first one.
      have later : ∀ i t,
          t ∈ (n :: seen) ++ rest.take i ↔ t ∈ seen ++ (n :: rest).take (i + 1) := by
        intro i t
        rw [List.take_succ_cons, List.cons_append]
        exact List.perm_middle.symm.mem_iff
      rw [firstRepeat?, if_neg known, ih]
      constructor
      · rintro ⟨i, found, again, least⟩
        refine ⟨i + 1, found, (later i s).1 again, fun j hj t ht => ?_⟩
        cases j with
        | zero =>
          obtain rfl := Option.some.inj ht
          simpa using known
        | succ j => exact fun h => least j (by omega) t ht ((later j t).2 h)
      · rintro ⟨i, found, again, least⟩
        cases i with
        | zero =>
          obtain rfl := Option.some.inj found
          simp [known] at again
        | succ i =>
          refine ⟨i, found, (later i s).2 again, fun j hj t ht h => ?_⟩
          exact least (j + 1) (by omega) t ht ((later j t).1 h)

namespace Contract

/-- The kinds of identity methods that are not among the methods. -/
def undeclared (ms : List Method) : List IdentityMethod :=
  IdentityMethod.all.filter fun which => ∀ m ∈ ms, m.kind ≠ .identity which

/-- The methods followed by the identity methods of the other kinds. -/
def complete (declared : List Method) : List Method :=
  declared ++ (undeclared declared).map .identity

/-- Adding identity methods one by one adds those that were missing in the beginning. -/
theorem foldl_addMissing {kinds : List IdentityMethod} (distinct : kinds.Nodup) (ms : List Method) :
    kinds.foldl
        (fun ms which =>
          if ms.any (·.kind.eqB (.identity which)) then ms else ms ++ [Method.identity which]) ms =
      ms ++ (kinds.filter fun which => ∀ m ∈ ms, m.kind ≠ .identity which).map .identity := by
  induction kinds generalizing ms with
  | nil => simp
  | cons which kinds ih =>
    obtain ⟨fresh, distinct⟩ := List.nodup_cons.1 distinct
    rw [List.foldl_cons]
    by_cases present : ∀ m ∈ ms, m.kind ≠ .identity which
    · have added : ms.any (·.kind.eqB (.identity which)) = false := by
        simpa [MethodKind.eqB_identity_iff] using present
      -- The method just added is of none of the kinds that are still to come.
      have same :
          kinds.filter (fun w => ∀ m ∈ ms ++ [Method.identity which], m.kind ≠ .identity w) =
            kinds.filter fun w => ∀ m ∈ ms, m.kind ≠ .identity w := by
        refine List.filter_congr fun w hw => ?_
        have other : which ≠ w := fun h => fresh (h ▸ hw)
        simp [or_imp, forall_and, Method.identity, other]
      rw [added, if_neg Bool.false_ne_true, ih distinct, same, List.filter_cons,
        if_pos (decide_eq_true present)]
      simp
    · have kept : ms.any (·.kind.eqB (.identity which)) = true := by
        simpa [MethodKind.eqB_identity_iff] using present
      rw [if_pos kept, ih distinct, List.filter_cons, if_neg (by simpa using present)]

theorem withIdentity_eq_complete (declared : List Method) :
    withIdentity declared = complete declared :=
  foldl_addMissing (by decide) declared

/-- A contract is not built exactly when a name is repeated; the first such name is reported. -/
theorem build_eq_error_iff {name : String} {declared : List Method} {e : ValidationError} :
    build name declared = .error e ↔
      ∃ method, firstRepeat? [] ((complete declared).map (·.name)) = some method ∧
        e = .duplicateMethod name method := by
  rw [← withIdentity_eq_complete]
  unfold build
  split
  case h_1 method repeated => simp [repeated, eq_comm]
  case h_2 distinct => simp [distinct]

/-- Every kind of identity method is among the completed methods, under its name. -/
theorem exists_identity_mem_complete {declared : List Method} (h : ∀ m ∈ declared, m.Declared)
    (which : IdentityMethod) :
    ∃ m ∈ complete declared, m.kind = .identity which ∧ m.name = which.name := by
  by_cases present : ∀ m ∈ declared, m.kind ≠ .identity which
  · have missing : which ∈ undeclared declared :=
      List.mem_filter.2 ⟨by cases which <;> decide, decide_eq_true present⟩
    exact ⟨.identity which, List.mem_append_right _ (List.mem_map_of_mem missing), rfl, rfl⟩
  · push Not at present
    obtain ⟨m, hm, hk⟩ := present
    exact ⟨m, List.mem_append_left _ hm, hk, (h m hm).name_of_identity hk⟩

theorem declared_of_mem_complete {declared : List Method} (h : ∀ m ∈ declared, m.Declared)
    {m : Method} (hm : m ∈ complete declared) : m.Declared := by
  obtain hm | hm := List.mem_append.1 hm
  · exact h m hm
  · obtain ⟨which, -, rfl⟩ := List.mem_map.1 hm
    exact .identity which

/-- The contract has an identity method of the kind at one place only, and its name leads there. -/
def HasOnce (c : Contract) (which : IdentityMethod) : Prop :=
  ∃ (i : Nat) (m : Method), c.methods[i]? = some m ∧ m.kind = .identity which ∧
    c.method? which.name = some m ∧
    ∀ (j : Nat) (n : Method), c.methods[j]? = some n → n.kind = .identity which → j = i

theorem hasOnce_of_build {name : String} {declared : List Method} {c : Contract}
    (hc : build name declared = .ok c) (h : ∀ m ∈ declared, m.Declared) (which : IdentityMethod) :
    c.HasOnce which := by
  have methods : c.methods = complete declared :=
    (build_eq_ok_iff.1 hc).2.trans (withIdentity_eq_complete declared)
  obtain ⟨m, hm, hk, hname⟩ := exists_identity_mem_complete h which
  rw [← methods] at hm
  obtain ⟨i, hi⟩ := List.mem_iff_getElem?.1 hm
  refine ⟨i, m, hi, hk, method?_eq_some_iff.2 ⟨hm, hname⟩, fun j n hj hn => ?_⟩
  have declared' : n.Declared :=
    declared_of_mem_complete h (methods ▸ List.mem_of_getElem? hj)
  -- A second method of the kind would have the same name at another place.
  have same : (c.methods.map (·.name))[j]? = (c.methods.map (·.name))[i]? := by
    simp [hi, hj, hname, declared'.name_of_identity hn]
  have bound : j < (c.methods.map (·.name)).length := by
    rw [List.length_map]
    exact (List.getElem?_eq_some_iff.1 hj).1
  exact (List.getElem?_inj bound c.distinct).1 same

/-- **Contracts are built exactly.** A contract can be built of declared methods if these and the
missing identity methods have distinct names. It then has just these methods, each kind of identity
method once and under its name. Otherwise the error names the first name that is repeated. -/
theorem build_exactly_complete (name : String) (declared : List Method) :
    ((∃ c, build name declared = .ok c) ↔ ((complete declared).map (·.name)).Nodup) ∧
      (∀ c, build name declared = .ok c →
        c.name = name ∧ c.methods = complete declared ∧
          ((∀ m ∈ declared, m.Declared) → ∀ which, c.HasOnce which)) ∧
      ∀ e, build name declared = .error e ↔
        ∃ i m, (complete declared)[i]? = some m ∧ e = .duplicateMethod name m.name ∧
          RepeatsAt ((complete declared).map (·.name)) i ∧
          ∀ j < i, ¬ RepeatsAt ((complete declared).map (·.name)) j := by
  refine ⟨?_, fun c hc => ?_, fun e => ?_⟩
  · rw [exists_build_iff, withIdentity_eq_complete]
  · obtain ⟨named, methods⟩ := build_eq_ok_iff.1 hc
    exact ⟨named, methods.trans (withIdentity_eq_complete declared),
      fun h which => hasOnce_of_build hc h which⟩
  · simp only [build_eq_error_iff, firstRepeat?_eq_some_iff, List.nil_append, not_repeatsAt_iff]
    constructor
    · rintro ⟨method, ⟨i, found, again, least⟩, rfl⟩
      obtain ⟨m, hm, rfl⟩ : ∃ m, (complete declared)[i]? = some m ∧ m.name = method := by
        simpa using found
      exact ⟨i, m, hm, rfl, ⟨m.name, found, again⟩, least⟩
    · rintro ⟨i, m, hm, rfl, ⟨method, found, again⟩, least⟩
      obtain rfl : m.name = method := by simpa [hm] using found
      exact ⟨m.name, ⟨i, found, again, least⟩, rfl⟩

/-- An identity method that was given a key and another return type, and a message method. -/
def doorMethods : List Method :=
  [⟨{ name := "to_string", key := some "door.text", returns := .text }, .identity .display⟩,
    .message { name := "status" }]

theorem declared_doorMethods : ∀ m ∈ doorMethods, m.Declared := by
  rw [doorMethods, List.forall_mem_cons, List.forall_mem_singleton]
  exact ⟨((Method.Declared.identity .display).key "door.text").returning .text, .message "status"⟩

theorem build_doors :
    (∃ c, build "Door" doorMethods = .ok c ∧ c.HasOnce .display ∧ c.HasOnce .hash) ∧
      build "Door" (doorMethods ++ [.message { name := "equals" }]) =
        .error (.duplicateMethod "Door" "equals") := by
  obtain ⟨exists_iff, exactly, -⟩ := build_exactly_complete "Door" doorMethods
  obtain ⟨-, -, fails⟩ :=
    build_exactly_complete "Door" (doorMethods ++ [.message { name := "equals" }])
  obtain ⟨c, hc⟩ := exists_iff.2 (by decide)
  obtain ⟨-, -, identities⟩ := exactly c hc
  have once := identities declared_doorMethods
  refine ⟨⟨c, hc, once .display, once .hash⟩, (fails _).2 ⟨3, .identity .equals, rfl, rfl, ?_, ?_⟩⟩
  · exact ⟨"equals", rfl, by decide⟩
  · intro j hj
    rw [not_repeatsAt_iff]
    decide +revert

end Contract

end MessageDispatch
