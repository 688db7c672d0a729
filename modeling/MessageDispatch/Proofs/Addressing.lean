import MessageDispatch.Proofs.Decorator
import MessageDispatch.Proofs.NamedPlaces

/-!
# Addressing the inputs of named calls

A template finds an input by its name, or as the target. What the named policy makes of a call can
be addressed so, whether the method was accepted or not: the run claims each name and the target
before it uses them, and leaves no claim out, so the inputs that it still adds keep clear of all
claims made before (`Claims.Leaves`). Names from the built-in namings are never empty. Decorators add
bundles of tags, which have no names, and so change nothing of this.
-/

namespace MessageDispatch

/-- The input is a target. -/
def Input.isTarget : Input → Bool
  | .target _ => true
  | _ => false

/-- The names of the inputs that have one. -/
def inputNames (inputs : List Input) : List String :=
  inputs.filterMap Input.name?

/-- Inputs that a template can tell apart without counting them. -/
structure Addressable (inputs : List Input) : Prop where
  distinct : (inputNames inputs).Nodup
  oneTarget : inputs.countP Input.isTarget ≤ 1
  noPosition : ∀ argument, Input.positional argument ∉ inputs

/-- The claims leave it open to add these inputs: their names are distinct and not among the claimed
ones, and a target is added once at most, and not after another one. -/
structure Claims.Leaves (claims : Claims) (added : List Input) : Prop where
  names : (inputNames added ++ claims.names).Nodup
  target : added.countP Input.isTarget + claims.target.toNat ≤ 1

/-- The built-in namings give no empty names. -/
theorem Naming.resolve_ne_empty {n : Naming} (h : n = .declared ∨ n = .declaredOrIdentifier)
    {q : Parameter} {name : String} (hr : n.resolve q = some name) : name ≠ "" := by
  have nonempty : ∀ {s t : String}, nonempty? s = some t → t ≠ "" := by
    intro s t hs
    unfold nonempty? at hs
    split at hs
    case isTrue => cases hs
    case isFalse content =>
      cases hs
      simpa using content
  obtain rfl | rfl := h
  · obtain ⟨s, -, hs⟩ := Option.bind_eq_some_iff.1 hr
    exact nonempty hs
  · simp only [resolve] at hr
    split at hr
    · exact nonempty hr
    · obtain ⟨identifier, hs, rfl⟩ := Option.map_eq_some_iff.1 hr
      obtain ⟨s, -, hs⟩ := Option.bind_eq_some_iff.1 hs
      exact fun h => nonempty hs (snakeCase_eq_empty_iff.1 h)

namespace Claims.Leaves

variable {claims : Claims} {added : List Input} {name : String}

/-- An input under a name that is claimed for it. -/
theorem named (h : Leaves { claims with names := name :: claims.names } added) {x : Input}
    (hn : x.name? = some name) (ht : x.isTarget = false) : claims.Leaves (x :: added) where
  names := by
    have names : (inputNames added ++ name :: claims.names).Nodup := h.names
    rw [List.perm_middle.nodup_iff] at names
    simpa [inputNames, hn] using names
  target := by
    rw [List.countP_cons_of_neg (by simp [ht])]
    exact h.target

/-- No input under a name that is claimed nevertheless. -/
theorem of_claimed (h : Leaves { claims with names := name :: claims.names } added) :
    claims.Leaves added where
  names := h.names.sublist ((List.Sublist.refl _).append (List.sublist_cons_self name _))
  target := h.target

end Claims.Leaves

namespace NamedArguments

variable {p : NamedArguments} {id : Identity} {method : String} {claims after : Claims}
  {a : Supplied} {x : Option Input}

/-- What the claims after a step leave open, the claims before it leave open together with what the
step adds. -/
theorem Step.leaves (h : p.Step id method claims a x after) {added : List Input}
    (later : after.Leaves added) : claims.Leaves (x.toList ++ added) := by
  cases h with
  | converted _ claimed | tag _ claimed =>
    obtain ⟨-, -, rfl⟩ := claim_eq_ok_iff.1 claimed
    exact later.named rfl rfl
  | nullTag _ claimed =>
    obtain ⟨-, -, rfl⟩ := claim_eq_ok_iff.1 claimed
    exact later.of_claimed
  | bundle => exact ⟨later.names, later.target⟩
  | nullBundle | nullTarget => exact later
  | target _ _ first =>
    refine ⟨later.names, ?_⟩
    have target := later.target
    rw [first, Option.toList_some, List.singleton_append, List.countP_cons_of_pos rfl]
    exact target

/-- The names that are claimed stay distinct. -/
theorem Step.nodup_names (h : p.Step id method claims a x after) (distinct : claims.names.Nodup) :
    after.names.Nodup := by
  cases h with
  | converted _ claimed | tag _ claimed | nullTag _ claimed =>
    obtain ⟨-, free, rfl⟩ := claim_eq_ok_iff.1 claimed
    exact List.nodup_cons.2 ⟨free, distinct⟩
  | bundle | nullBundle | target | nullTarget => exact distinct

/-- The run over the arguments. -/
theorem leaves_of_inputs {as : List Supplied} {added : List Input}
    (h : p.inputs id method claims as = .ok added) (distinct : claims.names.Nodup) :
    claims.Leaves added := by
  induction as generalizing claims added with
  | nil =>
    cases h
    refine ⟨by simpa [inputNames] using distinct, ?_⟩
    cases claims.target <;> simp
  | cons a as ih =>
    rw [inputs] at h
    cases hi : p.input id method claims a with
    | error e => simp [hi] at h
    | ok y =>
      obtain ⟨x, after⟩ := y
      rw [hi] at h
      cases hrest : p.inputs id method after as with
      | error e => simp [hrest] at h
      | ok rest =>
        simp only [hrest, Except.ok.injEq] at h
        rw [← h]
        have step := step_of_input hi
        exact step.leaves (ih hrest (step.nodup_names distinct))

/-- Every input of a call is what one of its arguments adds. -/
theorem exists_adds_of_mem {c : Call} {added : List Input} (h : p.adapt c = .ok added) {y : Input}
    (hy : y ∈ added) : ∃ a, p.Adds c.identity a (some y) := by
  obtain ⟨each, hadds, rfl⟩ := exists_adds_of_inputs h
  obtain ⟨i, hi, found⟩ := List.mem_iff_getElem.1 (List.reduceOption_mem_iff.1 hy)
  have place : i < c.arguments.length := hadds.length_eq ▸ hi
  have adds := hadds.get place hi
  rw [List.get_eq_getElem, List.get_eq_getElem, found] at adds
  exact ⟨_, adds⟩

theorem length_le_of_adapt {c : Call} {added : List Input} (h : p.adapt c = .ok added) :
    added.length ≤ c.method.parameters.length := by
  obtain ⟨each, hadds, rfl⟩ := exists_adds_of_inputs h
  calc each.reduceOption.length
    _ ≤ each.length := each.reduceOption_length_le
    _ = c.arguments.length := hadds.length_eq.symm
    _ = c.method.parameters.length := c.length_arguments

/-- The named inputs of a call are under the names of parameters. -/
theorem Adds.resolve_of_name? {y : Input} (h : p.Adds id a (some y)) {name : String}
    (hn : y.name? = some name) : p.naming.resolve a.parameter = some name := by
  cases h with
  | converted _ named | blank _ named | tag _ named =>
    cases hn
    exact named
  | bundle | readyTarget | newTarget => cases hn

theorem addressable_of_adapt {c : Call} {added : List Input} (h : p.adapt c = .ok added) :
    Addressable added := by
  have leaves : Claims.none.Leaves added := leaves_of_inputs h List.nodup_nil
  refine ⟨by simpa [Claims.none] using leaves.names, by simpa [Claims.none] using leaves.target, ?_⟩
  intro argument hy
  obtain ⟨a, hadds⟩ := exists_adds_of_mem h hy
  cases hadds

/-- Names of inputs are not empty under the built-in namings. -/
theorem name_ne_empty_of_adapt {c : Call} {added : List Input} (h : p.adapt c = .ok added)
    (hb : p.naming = .declared ∨ p.naming = .declaredOrIdentifier) {name : String}
    (hname : name ∈ inputNames added) : name ≠ "" := by
  obtain ⟨y, hy, hn⟩ := List.mem_filterMap.1 hname
  obtain ⟨a, hadds⟩ := exists_adds_of_mem h hy
  exact Naming.resolve_ne_empty hb (hadds.resolve_of_name? hn)

end NamedArguments

/-- Decorators append bundles of tags, and nothing else. -/
theorem ArgumentPolicy.exists_of_adapt_decorated {base : ArgumentPolicy} {c : Call}
    {s : Installation} {bindings : List SourceBinding} {added : List Input}
    (h : ((base.decorated bindings).adapt c s).1 = .ok added) :
    ∃ (own : List Input) (bundles : List TagBundle),
      (base.adapt c s).1 = .ok own ∧ added = own ++ bundles.map .bundle := by
  rcases hb : base.adapt c s with ⟨e | own, after⟩
  · rw [adapt_decorated_error hb] at h
    cases h
  · cases hs : c.method.scope? with
    | none =>
      rw [adapt_decorated_unmarked hb hs] at h
      cases h
      exact ⟨_, [], rfl, by simp⟩
    | some scope =>
      rw [adapt_decorated hb hs] at h
      cases h
      refine ⟨own, bindings.filterMap fun b => (b.under after.effective?).map (· scope), rfl, ?_⟩
      simp [SourceBinding.bundles, List.map_filterMap, Option.map_map, Function.comp_def]

theorem inputNames_append_bundles (inputs : List Input) (bundles : List TagBundle) :
    inputNames (inputs ++ bundles.map .bundle) = inputNames inputs := by
  simp [inputNames, List.filterMap_map, Function.comp_def, Input.name?]

theorem Addressable.append_bundles {inputs : List Input} (h : Addressable inputs)
    (bundles : List TagBundle) : Addressable (inputs ++ bundles.map .bundle) where
  distinct := by
    rw [inputNames_append_bundles]
    exact h.distinct
  oneTarget := by simpa [List.countP_map, Function.comp_def, Input.isTarget] using h.oneTarget
  noPosition argument := by simpa using h.noPosition argument

/-- **Inputs of named calls can be addressed.** Whenever a call is served, its inputs are told apart
by distinct names, with one target at most and nothing by position; there are no more of them than
parameters, and the names are not empty if they come from a built-in naming. Under decorators, the
inputs may become more, and all else stays. -/
theorem NamedArguments.adapt_addressable (p : NamedArguments) (c : Call) :
    (∀ added, p.adapt c = .ok added →
        Addressable added ∧ added.length ≤ c.method.parameters.length ∧
          (p.naming = .declared ∨ p.naming = .declaredOrIdentifier →
            ∀ name ∈ inputNames added, name ≠ "")) ∧
      ∀ bindings s added, (((ArgumentPolicy.named p).decorated bindings).adapt c s).1 = .ok added →
        Addressable added ∧
          (p.naming = .declared ∨ p.naming = .declaredOrIdentifier →
            ∀ name ∈ inputNames added, name ≠ "") := by
  refine ⟨fun added h => ⟨addressable_of_adapt h, length_le_of_adapt h, fun hb name hname =>
    name_ne_empty_of_adapt h hb hname⟩, fun bindings s added h => ?_⟩
  obtain ⟨own, bundles, hown, rfl⟩ := ArgumentPolicy.exists_of_adapt_decorated h
  refine ⟨(addressable_of_adapt hown).append_bundles bundles, fun hb name hname => ?_⟩
  rw [inputNames_append_bundles] at hname
  exact name_ne_empty_of_adapt hown hb hname

/-- A call of a marked method with nulls for a string and for a tag. -/
def toastOfAda : Call where
  method :=
    Signature.markAll
      { name := "toast"
        parameters :=
          [{ type := .string, identifier := some "fullName" },
            { type := .string, identifier := some "nickName", nullable := true },
            { type := .tag, name := some "icon", nullable := true }, { type := .tagBundle },
            { type := .host "Player", asTarget := true }] }
      [.scope .audience]
  values :=
    [some (.string "Ada"), none, none, some (.tagBundle .empty), some (.host "Player" "P1")]
  identity := ⟨[0]⟩
  arity := rfl

/-- The placeholders of the process between two copies of a source of one's own. -/
def toastSources : List SourceBinding :=
  [.explicit ArgumentPolicy.labelSource, .processWide, .explicit ArgumentPolicy.labelSource]

theorem NamedArguments.adapt_toastOfAda :
    ∃ added, (((ArgumentPolicy.named ⟨.standard, .declaredOrIdentifier⟩).decorated
          toastSources).adapt toastOfAda .start).1 = .ok added ∧
      inputNames added = ["full_name", "nick_name"] ∧ added.length = 6 ∧ Addressable added ∧
      ∀ name ∈ inputNames added, name ≠ "" := by
  obtain ⟨-, decorated⟩ := adapt_addressable ⟨.standard, .declaredOrIdentifier⟩ toastOfAda
  obtain ⟨addressable, nonempty⟩ := decorated toastSources .start _ rfl
  exact ⟨_, rfl, rfl, rfl, addressable, nonempty (.inr rfl)⟩

end MessageDispatch
