import Mathlib.Data.List.Infix
import Mathlib.Data.List.ReduceOption
import MessageDispatch.Proofs.Named

/-!
# Named adaptation, place by place

Adaptation carries claims from one argument to the next. Here it is described without them: whether
the argument at a place fails depends on it and on the arguments before it (`faultAt?`), and what it
adds to the inputs depends on it alone (`Adds`). A call fails at the least place that fails; if none
does, its inputs are what its arguments add, in their order. The two descriptions meet in
`claimsOf`: the claims of the run at a place are those of the arguments before that place.
-/

namespace MessageDispatch.NamedArguments

variable {p : NamedArguments} {method : String} {id : Identity}

instance (p : NamedArguments) (q : Parameter) : Decidable (p.TakesName q) :=
  inferInstanceAs (Decidable (_ ∨ _))

/-- The name that a parameter goes by, if its route takes one. -/
def name? (p : NamedArguments) (q : Parameter) : Option String :=
  if p.TakesName q then p.naming.resolve q else none

/-- A value is passed for a parameter that is routed as the target. -/
def suppliesTarget (p : NamedArguments) (a : Supplied) : Bool :=
  p.takesTarget a.parameter && a.value.isSome

/-- The error of a parameter without a route. -/
def routeFault? (p : NamedArguments) (method : String) (a : Supplied) : Option InvocationError :=
  if p.route? a.parameter = none then
    some (.unsupportedParameter method a.index a.parameter.type)
  else none

/-- The error of a parameter whose route takes a name and that has none. -/
def nameFault? (p : NamedArguments) (method : String) (a : Supplied) : Option InvocationError :=
  if p.TakesName a.parameter ∧ p.naming.resolve a.parameter = none then
    some (.unresolvableName method a.index)
  else none

/-- The error of a name that an earlier argument goes by; nulls go by their names too. -/
def repeatFault? (p : NamedArguments) (method : String) (earlier : List Supplied) (a : Supplied) :
    Option InvocationError :=
  match p.name? a.parameter with
  | none => none
  | some name =>
    if ∃ b ∈ earlier, p.name? b.parameter = some name then some (.duplicateName method name)
    else none

/-- The error of a target after another one; null targets count for nothing. -/
def targetFault? (p : NamedArguments) (method : String) (earlier : List Supplied) (a : Supplied) :
    Option InvocationError :=
  if p.suppliesTarget a = true ∧ ∃ b ∈ earlier, p.suppliesTarget b = true then
    some (.multipleTargets method)
  else none

/-- The first error that applies to an argument after earlier ones. -/
def faultAfter? (p : NamedArguments) (method : String) (earlier : List Supplied) (a : Supplied) :
    Option InvocationError :=
  a.nullFault? method
    |>.or (p.routeFault? method a)
    |>.or (p.nameFault? method a)
    |>.or (p.repeatFault? method earlier a)
    |>.or (p.targetFault? method earlier a)
    |>.or (a.typeFault? p.takesTarget method)

/-- The error that the argument at a place of a call raises, if the run comes so far. -/
def faultAt? (p : NamedArguments) (c : Call) (i : Nat) : Option InvocationError :=
  c.arguments[i]?.bind (p.faultAfter? c.method.name (c.arguments.take i))

/-- What an argument adds to the inputs. Conversion yields an input for every argument; on the other
routes a null adds nothing, and a value is passed through. -/
inductive Adds (p : NamedArguments) (id : Identity) (a : Supplied) : Option Input → Prop where
  | converted {name : String} {convert : Conversion a.parameter.type} {x : a.parameter.type.Carrier}
      (route : p.route? a.parameter = some .registry)
      (named : p.naming.resolve a.parameter = some name)
      (conversion : p.adapter.conversions.find? a.parameter.type = some convert)
      (value : a.value = some (.of a.parameter.type x)) :
      Adds p id a (some (.named name (convert (id.part a.index) x)))
  | blank {name : String} (route : p.route? a.parameter = some .registry)
      (named : p.naming.resolve a.parameter = some name) (value : a.value = none) :
      Adds p id a (some (.named name (.component .empty)))
  | tag {name : String} {tag : Tag} (route : p.route? a.parameter = some .tag)
      (named : p.naming.resolve a.parameter = some name) (value : a.value = some (.tag tag)) :
      Adds p id a (some (.tag name tag))
  | bundle {tags : TagBundle} (route : p.route? a.parameter = some .bundle)
      (value : a.value = some (.tagBundle tags)) : Adds p id a (some (.bundle tags))
  | readyTarget {target : Target} (route : p.route? a.parameter = some .target)
      (value : a.value = some (.target target)) : Adds p id a (some (.target target))
  | newTarget {v : Value} (route : p.route? a.parameter = some .target) (value : a.value = some v)
      (other : v.ty ≠ .target) (declared : v.ty = a.parameter.type) :
      Adds p id a (some (.target ⟨v, id.part a.index⟩))
  | nothing {route : ArgumentRoute} (routed : p.route? a.parameter = some route)
      (other : route ≠ .registry) (value : a.value = none) : Adds p id a none

/-- The claims of the arguments before a place. -/
def claimsOf (p : NamedArguments) (earlier : List Supplied) : Claims where
  names := (earlier.filterMap fun b => p.name? b.parameter).reverse
  target := earlier.any p.suppliesTarget

theorem mem_names_claimsOf {earlier : List Supplied} {name : String} :
    name ∈ (p.claimsOf earlier).names ↔ ∃ b ∈ earlier, p.name? b.parameter = some name := by
  simp [claimsOf]

theorem target_claimsOf {earlier : List Supplied} :
    (p.claimsOf earlier).target = true ↔ ∃ b ∈ earlier, p.suppliesTarget b = true := by
  simp [claimsOf]

theorem name?_of_takesName {q : Parameter} (h : p.TakesName q) : p.name? q = p.naming.resolve q :=
  if_pos h

theorem name?_of_not_takesName {q : Parameter} (h : ¬ p.TakesName q) : p.name? q = none :=
  if_neg h

theorem suppliesTarget_of_ne {a : Supplied} (h : p.route? a.parameter ≠ some .target) :
    p.suppliesTarget a = false := by
  simp [suppliesTarget, takesTarget, h]

theorem suppliesTarget_iff {a : Supplied} (h : p.route? a.parameter = some .target) :
    p.suppliesTarget a = true ↔ a.value ≠ none := by
  simp [suppliesTarget, takesTarget, h, Option.isSome_iff_ne_none]

theorem routeFault?_of_route {a : Supplied} {route : ArgumentRoute}
    (h : p.route? a.parameter = some route) : p.routeFault? method a = none := by
  simp [routeFault?, h]

theorem nameFault?_of_not_takesName {a : Supplied} (h : ¬ p.TakesName a.parameter) :
    p.nameFault? method a = none := by
  simp [nameFault?, h]

theorem repeatFault?_of_not_takesName {a : Supplied} (h : ¬ p.TakesName a.parameter)
    (earlier : List Supplied) : p.repeatFault? method earlier a = none := by
  simp [repeatFault?, name?_of_not_takesName h]

theorem targetFault?_of_ne {a : Supplied} (h : p.route? a.parameter ≠ some .target)
    (earlier : List Supplied) : p.targetFault? method earlier a = none := by
  simp [targetFault?, suppliesTarget_of_ne h]

/-- One more argument adds its name to the claims, and its target. -/
theorem claimsOf_concat (earlier : List Supplied) (a : Supplied) :
    p.claimsOf (earlier ++ [a]) =
      ⟨(p.name? a.parameter).toList ++ (p.claimsOf earlier).names,
        (p.claimsOf earlier).target || p.suppliesTarget a⟩ := by
  cases hn : p.name? a.parameter <;> simp [claimsOf, hn]

/-- What acceptance rejects after the claims of earlier arguments, said by those arguments. -/
theorem claimFault?_claimsOf (earlier : List Supplied) (a : Supplied) :
    p.claimFault? method (p.claimsOf earlier) a =
      (p.routeFault? method a).or ((p.nameFault? method a).or
        ((p.repeatFault? method earlier a).or (p.targetFault? method earlier a))) := by
  obtain hr | hr | hr | hr := p.route_cases a.parameter
  · simp [claimFault?, acceptSupplied, acceptParameter, takesTarget, routeFault?, hr,
      ValidationError.atCall?]
  · obtain ⟨route, routed, noTarget⟩ :
        ∃ route, p.route? a.parameter = some route ∧ p.route? a.parameter ≠ some .target := by
      rcases hr with hr | hr <;> exact ⟨_, hr, by simp [hr]⟩
    rw [claimFault?, acceptSupplied_named hr, acceptName, routeFault?_of_route routed,
      targetFault?_of_ne noTarget, nameFault?, repeatFault?, name?_of_takesName hr]
    cases hn : p.naming.resolve a.parameter with
    | none => simp [hr, ValidationError.atCall?]
    | some name =>
      simp only [← mem_names_claimsOf]
      by_cases taken : name ∈ (p.claimsOf earlier).names <;> simp [taken, ValidationError.atCall?]
  · have unnamed : ¬ p.TakesName a.parameter := by simp [TakesName, hr]
    rw [claimFault?, acceptSupplied_bundle hr, routeFault?_of_route hr,
      nameFault?_of_not_takesName unnamed, repeatFault?_of_not_takesName unnamed,
      targetFault?_of_ne (by simp [hr])]
    rfl
  · have unnamed : ¬ p.TakesName a.parameter := by simp [TakesName, hr]
    rw [claimFault?, acceptSupplied_target hr, routeFault?_of_route hr,
      nameFault?_of_not_takesName unnamed, repeatFault?_of_not_takesName unnamed, targetFault?]
    simp only [suppliesTarget_iff hr, ← target_claimsOf]
    by_cases hv : a.value = none
    · simp [hv]
    · cases ht : (p.claimsOf earlier).target <;> simp [hv, ValidationError.atCall?]

/-- After the step of adaptation, the argument is one of the earlier ones. -/
theorem Step.claims_eq {earlier : List Supplied} {a : Supplied} {x : Option Input} {after : Claims}
    (h : p.Step id method (p.claimsOf earlier) a x after) :
    after = p.claimsOf (earlier ++ [a]) := by
  rw [claimsOf_concat]
  have named : ∀ {name}, p.TakesName a.parameter →
      p.claim method (p.claimsOf earlier) a = .ok (name, after) →
      after = ⟨(p.name? a.parameter).toList ++ (p.claimsOf earlier).names,
        (p.claimsOf earlier).target || p.suppliesTarget a⟩ := by
    intro name hr claimed
    obtain ⟨resolved, -, rfl⟩ := claim_eq_ok_iff.1 claimed
    simp [name?_of_takesName hr, resolved, suppliesTarget, hr.not_target]
  have unnamed : ∀ {route}, p.route? a.parameter = some route → route = .bundle ∨ route = .target →
      p.name? a.parameter = none := by
    intro route hr other
    apply name?_of_not_takesName
    rcases other with rfl | rfl <;> simp [TakesName, hr]
  cases h with
  | converted route claimed => exact named (.inl route) claimed
  | tag route claimed | nullTag route claimed => exact named (.inr route) claimed
  | bundle route | nullBundle route =>
    simp [unnamed route (.inl rfl), suppliesTarget_of_ne, route]
  | target route value => simp [unnamed route (.inr rfl), suppliesTarget_iff route, value]
  | nullTarget route value => simp [unnamed route (.inr rfl), suppliesTarget, value]

/-- The step of adaptation after the claims of earlier arguments. -/
theorem failure?_input_claimsOf (id : Identity) (earlier : List Supplied) (a : Supplied) :
    failure? (p.input id method (p.claimsOf earlier) a) = p.faultAfter? method earlier a := by
  rw [failure?_input, claimFault?_claimsOf]
  simp only [faultAfter?, Option.or_assoc]

/-- The run of adaptation fails at the first argument that fails after those before it. -/
theorem failure?_inputs_claimsOf (earlier rest : List Supplied) :
    failure? (p.inputs id method (p.claimsOf earlier) rest) =
      (rest.inits.zip rest).findSome? fun x => p.faultAfter? method (earlier ++ x.1) x.2 := by
  induction rest generalizing earlier with
  | nil => rfl
  | cons a rest ih =>
    rw [inputs, List.inits_cons, List.zip_cons_cons, List.findSome?_cons, List.append_nil,
      ← failure?_input_claimsOf id]
    cases hi : p.input id method (p.claimsOf earlier) a with
    | error e => rfl
    | ok x =>
      obtain ⟨x, after⟩ := x
      obtain rfl := (step_of_input hi).claims_eq
      have later := ih (earlier ++ [a])
      simp only [List.append_assoc, List.singleton_append] at later
      simp only [failure?_ok, List.zip_map_left, List.findSome?_map, Function.comp_def, Prod.map,
        id_eq, ← later]
      cases p.inputs id method (p.claimsOf (earlier ++ [a])) rest <;> rfl

/-- The elements before a place and the element there. -/
theorem getElem?_zip_inits {α : Type} {xs : List α} {i : Nat} {x : List α × α} :
    (xs.inits.zip xs)[i]? = some x ↔ x.1 = xs.take i ∧ xs[i]? = some x.2 := by
  rw [List.getElem?_zip_eq_some]
  constructor
  · rintro ⟨before, here⟩
    obtain ⟨bound, before⟩ := List.getElem?_eq_some_iff.1 before
    rw [List.getElem_inits] at before
    exact ⟨before.symm, here⟩
  · rintro ⟨before, here⟩
    have bound : i < xs.inits.length := by
      have h := (List.getElem?_eq_some_iff.1 here).1
      rw [List.length_inits]
      omega
    refine ⟨?_, here⟩
    rw [List.getElem?_eq_getElem bound, List.getElem_inits, before]

theorem faultAt?_eq_some_iff {c : Call} {i : Nat} {e : InvocationError} :
    p.faultAt? c i = some e ↔ ∃ a, c.arguments[i]? = some a ∧
      p.faultAfter? c.method.name (c.arguments.take i) a = some e := by
  simp [faultAt?, Option.bind_eq_some_iff]

theorem faultAt?_eq_none_iff {c : Call} {i : Nat} :
    p.faultAt? c i = none ↔ ∀ a, c.arguments[i]? = some a →
      p.faultAfter? c.method.name (c.arguments.take i) a = none := by
  simp [faultAt?, Option.bind_eq_none_iff]

/-- A call fails as the first argument that fails after those before it. -/
theorem failure?_adapt (p : NamedArguments) (c : Call) :
    failure? (p.adapt c) =
      (c.arguments.inits.zip c.arguments).findSome? fun x =>
        p.faultAfter? c.method.name x.1 x.2 :=
  failure?_inputs_claimsOf [] c.arguments

/-- A call fails at the least place that fails. -/
theorem adapt_eq_error_iff {c : Call} {e : InvocationError} :
    p.adapt c = .error e ↔ ∃ i, p.faultAt? c i = some e ∧ ∀ j < i, p.faultAt? c j = none := by
  rw [← failure?_eq_some_iff, failure?_adapt, findSome?_eq_some_iff_least]
  simp only [getElem?_zip_inits, faultAt?_eq_some_iff, faultAt?_eq_none_iff]
  constructor
  · rintro ⟨i, ⟨_, a⟩, ⟨rfl, ha⟩, he, least⟩
    exact ⟨i, ⟨a, ha, he⟩, fun j hj b hb => least j hj (_, b) ⟨rfl, hb⟩⟩
  · rintro ⟨i, ⟨a, ha, he⟩, least⟩
    refine ⟨i, (_, a), ⟨rfl, ha⟩, he, ?_⟩
    rintro j hj ⟨_, b⟩ ⟨rfl, hb⟩
    exact least j hj b hb

/-- In a call that is served no place fails. -/
theorem faultAt?_of_ok {c : Call} {added : List Input} (h : p.adapt c = .ok added) (i : Nat) :
    p.faultAt? c i = none := by
  have run : failure? (p.adapt c) = none := failure?_eq_none_iff.2 ⟨added, h⟩
  rw [failure?_adapt, List.findSome?_eq_none_iff] at run
  rw [faultAt?_eq_none_iff]
  intro a ha
  have place := getElem?_zip_inits (x := (c.arguments.take i, a)).2 ⟨rfl, ha⟩
  exact run _ (List.mem_of_getElem? place)

/-- What conversion makes of an argument is what the argument adds. -/
theorem adds_of_adaptSupplied {a : Supplied} {name : String} {argument : Argument}
    (route : p.route? a.parameter = some .registry)
    (named : p.naming.resolve a.parameter = some name)
    (h : p.adapter.adaptSupplied id method a a.value = .ok argument) :
    p.Adds id a (some (.named name argument)) := by
  cases hv : a.value with
  | none =>
    rw [hv] at h
    cases h
    exact .blank route named hv
  | some v =>
    rw [hv] at h
    obtain ⟨convert, x, conversion, rfl, rfl⟩ := Adapter.exists_of_adaptSupplied h
    exact .converted route named conversion hv

/-- The step of adaptation adds what the argument adds. -/
theorem Step.adds {claims after : Claims} {a : Supplied} {x : Option Input}
    (h : p.Step id method claims a x after) : p.Adds id a x := by
  cases h with
  | converted route claimed adapted =>
    exact adds_of_adaptSupplied route (claim_eq_ok_iff.1 claimed).1 adapted
  | tag route claimed value => exact .tag route (claim_eq_ok_iff.1 claimed).1 value
  | bundle route value => exact .bundle route value
  | target route value _ yields =>
    obtain rfl | ⟨other, -, declared, rfl⟩ := Parameter.toTarget_eq_some_iff.1 yields
    · exact .readyTarget route value
    · exact .newTarget route value other declared
  | nullTag route _ value | nullBundle route value | nullTarget route value =>
    exact .nothing route (by simp) value

/-- The inputs of a run are what its arguments add. -/
theorem exists_adds_of_inputs {claims : Claims} {as : List Supplied} {added : List Input}
    (h : p.inputs id method claims as = .ok added) :
    ∃ each, List.Forall₂ (p.Adds id) as each ∧ added = each.reduceOption := by
  induction as generalizing claims added with
  | nil =>
    cases h
    exact ⟨[], .nil, rfl⟩
  | cons a as ih =>
    rw [inputs] at h
    cases hi : p.input id method claims a with
    | error e => simp [hi] at h
    | ok x =>
      obtain ⟨x, after⟩ := x
      rw [hi] at h
      cases hrest : p.inputs id method after as with
      | error e => simp [hrest] at h
      | ok rest =>
        simp only [hrest, Except.ok.injEq] at h
        obtain ⟨each, hadds, rfl⟩ := ih hrest
        refine ⟨x :: each, .cons (step_of_input hi).adds hadds, ?_⟩
        rw [← h]
        cases x <;> rfl

/-- What an argument adds is determined. -/
theorem Adds.unique {a : Supplied} {x y : Option Input} (hx : p.Adds id a x) (hy : p.Adds id a y) :
    x = y := by
  have ready : ∀ t, (Value.target t).ty = .target := fun _ => rfl
  have held : ∀ x y, Value.of a.parameter.type x = .of a.parameter.type y → x = y :=
    fun _ _ => Value.of_inj.1
  cases hx <;> cases hy <;> grind

/-- **Named adaptation without claims.** A call fails exactly with the error of the least place that
fails. If no place fails, there is one way in which every argument adds something or nothing, and
the inputs are what they add, in the order of the parameters. -/
theorem adapt_place_by_place (p : NamedArguments) (c : Call) :
    (∀ e, p.adapt c = .error e ↔
      ∃ i, p.faultAt? c i = some e ∧ ∀ j < i, p.faultAt? c j = none) ∧
    ((∀ i, p.faultAt? c i = none) →
      ∃ each, p.adapt c = .ok each.reduceOption ∧
        List.Forall₂ (p.Adds c.identity) c.arguments each ∧
        ∀ other, List.Forall₂ (p.Adds c.identity) c.arguments other → other = each) := by
  refine ⟨fun e => adapt_eq_error_iff, fun none_fails => ?_⟩
  cases ha : p.adapt c with
  | error e =>
    obtain ⟨i, he, -⟩ := adapt_eq_error_iff.1 ha
    rw [none_fails i] at he
    cases he
  | ok added =>
    obtain ⟨each, hadds, rfl⟩ := exists_adds_of_inputs ha
    refine ⟨each, rfl, hadds, ?_⟩
    have determined : Relator.RightUnique (p.Adds c.identity) := fun _ _ _ => Adds.unique
    exact fun other hother => List.right_unique_forall₂' determined hother hadds

/-- A call with an argument on every route; the nulls are a string and a bundle of tags. -/
def noticeOfAda : Call where
  method :=
    { name := "notice"
      parameters :=
        [{ type := .string, name := some "who" },
          { type := .string, name := some "title", nullable := true },
          { type := .tag, name := some "icon" },
          { type := .tagBundle, nullable := true },
          { type := .host "Player", asTarget := true }] }
  values :=
    [some (.string "Ada"), none, some (.tag (.preprocessed "<star>")), none,
      some (.host "Player" "P1")]
  identity := ⟨[0]⟩
  arity := rfl

theorem adapt_noticeOfAda :
    (∀ i, (⟨.standard, .declared⟩ : NamedArguments).faultAt? noticeOfAda i = none) ∧
      (⟨.standard, .declared⟩ : NamedArguments).adapt noticeOfAda =
        .ok [.named "who" (.component (.literal "Ada")), .named "title" (.component .empty),
          .tag "icon" (.preprocessed "<star>"), .target ⟨.host "Player" "P1", ⟨[4, 0]⟩⟩] := by
  have none_fails : ∀ i,
      (⟨.standard, .declared⟩ : NamedArguments).faultAt? noticeOfAda i = none := by
    intro i
    rcases i with _ | _ | _ | _ | _ | i <;> rfl
  obtain ⟨each, served, -, determined⟩ := (adapt_place_by_place _ noticeOfAda).2 none_fails
  let ada : Supplied := ⟨{ type := .string, name := some "who" }, some (.string "Ada"), 0⟩
  have who : (⟨.standard, .declared⟩ : NamedArguments).Adds ⟨[0]⟩ ada
      (some (.named "who" (.component (.literal "Ada")))) :=
    @Adds.converted _ _ ada "who" (fun _ s => .component (.literal s)) "Ada" rfl rfl rfl rfl
  have adds : List.Forall₂ ((⟨.standard, .declared⟩ : NamedArguments).Adds ⟨[0]⟩)
      noticeOfAda.arguments
      [some (.named "who" (.component (.literal "Ada"))), some (.named "title" (.component .empty)),
        some (.tag "icon" (.preprocessed "<star>")), none,
        some (.target ⟨.host "Player" "P1", ⟨[4, 0]⟩⟩)] :=
    .cons who <| .cons (.blank rfl rfl rfl) <| .cons (.tag rfl rfl rfl) <|
      .cons (@Adds.nothing _ _ _ .bundle rfl (by decide) rfl) <|
        .cons (.newTarget rfl rfl (by decide) rfl) .nil
  rw [← determined _ adds] at served
  exact ⟨none_fails, served⟩

end MessageDispatch.NamedArguments
