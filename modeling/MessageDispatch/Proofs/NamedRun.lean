import MessageDispatch.Proofs.Named

/-!
# Accepted and rejected named methods

The loops of acceptance and of adaptation run side by side, over the parameters of a method and over
the arguments of a call of it. Their claims stay related (`Claims.Follows`): the same names, and no
target seen by adaptation that acceptance did not see. A method that is accepted has calls that fail
on the caller's faults only (`failure?_inputs`); a method that is rejected has calls that fail as it
was rejected (`inputs_of_acceptFrom_error`), the rejection of a second target excepted where a null
was passed for one.
-/

namespace MessageDispatch

/-- The claims `c` of adaptation against the claims `d` of acceptance. -/
structure Claims.Follows (c d : Claims) : Prop where
  names : c.names = d.names
  target : c.target = true → d.target = true

theorem Claims.Follows.refl (c : Claims) : c.Follows c :=
  ⟨rfl, id⟩

namespace NamedArguments

variable {p : NamedArguments} {method : String}

/-- An argument that is no null target is accepted as its parameter is. -/
theorem acceptSupplied_eq {a : Supplied} (h : p.takesTarget a.parameter = true → a.value ≠ none)
    (claims : Claims) :
    p.acceptSupplied method claims a = p.acceptParameter method claims a.index a.parameter := by
  unfold acceptSupplied
  rw [if_neg]
  rintro ⟨hv, ht⟩
  exact h ht hv

/-- A name is accepted after the names alone, whatever target was seen. -/
theorem acceptName_congr {c d : Claims} (hn : c.names = d.names) (i : Nat) (q : Parameter) :
    p.acceptName method c i q =
      (p.acceptName method d i q).map fun after => { after with target := c.target } := by
  unfold acceptName
  rw [hn]
  cases p.naming.resolve q with
  | none => rfl
  | some name => by_cases hm : name ∈ d.names <;> simp [hm, Except.map]

/-- What is accepted after the claims of acceptance is accepted after those of adaptation. -/
theorem acceptSupplied_of_accept {c d after : Claims} (hf : c.Follows d) {a : Supplied}
    (h : p.acceptParameter method d a.index a.parameter = .ok after) :
    ∃ kept, p.acceptSupplied method c a = .ok kept ∧ kept.Follows after := by
  obtain hr | hr | hr | hr := p.route_cases a.parameter
  · simp [acceptParameter, hr] at h
  · rw [hr.acceptParameter] at h
    rw [acceptSupplied_named hr, acceptName_congr hf.names, h]
    refine ⟨_, rfl, rfl, ?_⟩
    have ht : after.target = d.target := by
      unfold acceptName at h
      grind
    rw [ht]
    exact hf.target
  · simp only [acceptParameter, hr] at h
    cases h
    exact ⟨c, acceptSupplied_bundle hr method c, hf⟩
  · simp only [acceptParameter, hr] at h
    rw [acceptSupplied_target hr]
    cases hd : d.target with
    | true => simp [hd] at h
    | false =>
      have hc : c.target = false := by
        cases hc : c.target with
        | false => rfl
        | true => exact absurd (hf.target hc) (by simp [hd])
      simp only [hd] at h
      cases h
      by_cases hv : a.value = none
      · exact ⟨c, by simp [hv], hf.names, by simp⟩
      · exact ⟨{ c with target := true }, by simp [hv, hc], hf.names, by simp⟩

/-- What is rejected is rejected after the claims of adaptation too, except for a second target. -/
theorem acceptSupplied_of_reject {c d : Claims} (hf : c.Follows d) {a : Supplied}
    {e : ValidationError} (h : p.acceptParameter method d a.index a.parameter = .error e)
    (he : e ≠ .multipleTargets method) : p.acceptSupplied method c a = .error e := by
  obtain hr | hr | hr | hr := p.route_cases a.parameter
  · rw [acceptSupplied_eq (by simp [takesTarget, hr])]
    simp only [acceptParameter, hr] at h ⊢
    exact h
  · rw [hr.acceptParameter] at h
    rw [acceptSupplied_named hr, acceptName_congr hf.names, h]
    rfl
  · simp [acceptParameter, hr] at h
  · simp only [acceptParameter, hr] at h
    split at h
    · cases h
      exact absurd rfl he
    · cases h

/-- A rejected parameter has an error that calls raise too. -/
theorem atCall?_of_reject {claims : Claims} {i : Nat} {q : Parameter} {e : ValidationError}
    (h : p.acceptParameter method claims i q = .error e) : ∃ f, e.atCall? = some f := by
  obtain hr | hr | hr | hr := p.route_cases q
  · simp only [acceptParameter, hr] at h
    cases h
    exact ⟨_, rfl⟩
  · rw [hr.acceptParameter, acceptName] at h
    split at h
    · cases h
      exact ⟨_, rfl⟩
    · split at h <;> cases h
      exact ⟨_, rfl⟩
  · simp [acceptParameter, hr] at h
  · simp only [acceptParameter, hr] at h
    split at h <;> cases h
    exact ⟨_, rfl⟩

/-- The run over the arguments of accepted parameters. -/
theorem failure?_inputs {c d : Claims} (hf : c.Follows d) {i : Nat} {qs : List Parameter}
    (h : p.acceptFrom method d i qs = .ok ()) (vs : List (Option Value)) (id : Identity) :
    failure? (p.inputs id method c (Supplied.pair i qs vs)) =
      (Supplied.pair i qs vs).findSome? (·.fault? p.takesTarget method) := by
  induction qs generalizing c d i vs with
  | nil => simp [Supplied.pair, inputs]
  | cons q qs ih =>
    cases vs with
    | nil => simp [Supplied.pair, inputs]
    | cons v vs =>
      let a : Supplied := ⟨q, v, i⟩
      rw [acceptFrom] at h
      cases ha : p.acceptParameter method d i q with
      | error e => simp [ha] at h
      | ok after =>
        rw [ha] at h
        obtain ⟨kept, hk, hf'⟩ := acceptSupplied_of_accept hf (a := a) ha
        have first : failure? (p.input id method c a) = a.fault? p.takesTarget method := by
          rw [failure?_input, claimFault?, hk]
          rfl
        rw [Supplied.pair, inputs, List.findSome?_cons, ← first]
        cases hi : p.input id method c a with
        | error e => rfl
        | ok x =>
          obtain ⟨x, claimed⟩ := x
          -- The step ends with the claims that are related to those of acceptance.
          obtain rfl := Except.ok.inj (hk.symm.trans (acceptSupplied_of_input hi))
          simp only [failure?_ok, ← ih hf' h vs]
          cases p.inputs id method kept (Supplied.pair (i + 1) qs vs) <;> rfl

/-- An admitted argument of a rejected parameter fails as the parameter was rejected. -/
theorem input_of_reject {c d : Claims} (hf : c.Follows d) {a : Supplied}
    (admitted : a.parameter.Admits a.value) {e : ValidationError}
    (h : p.acceptParameter method d a.index a.parameter = .error e)
    (ht : e = .multipleTargets method →
      c = d ∧ (p.takesTarget a.parameter = true → a.value ≠ none)) (id : Identity) :
    ∃ f, e.atCall? = some f ∧ p.input id method c a = .error f := by
  obtain ⟨f, hef⟩ := atCall?_of_reject h
  have hs : p.acceptSupplied method c a = .error e := by
    by_cases he : e = .multipleTargets method
    · obtain ⟨rfl, hn⟩ := ht he
      rw [acceptSupplied_eq hn]
      exact h
    · exact acceptSupplied_of_reject hf h he
  have hnull : a.nullFault? method = none := Supplied.nullFault?_of_admits admitted method
  refine ⟨f, hef, failure?_eq_some_iff.1 ?_⟩
  rw [failure?_input, hnull, claimFault?, hs]
  simp [hef]

/-- An admitted argument of an accepted parameter makes an input, and keeps the claims related. -/
theorem input_of_accept {c d after : Claims} (hf : c.Follows d) {a : Supplied}
    (admitted : a.parameter.Admits a.value)
    (h : p.acceptParameter method d a.index a.parameter = .ok after) (id : Identity) :
    ∃ x kept, p.input id method c a = .ok (x, kept) ∧
      p.acceptSupplied method c a = .ok kept ∧ kept.Follows after := by
  obtain ⟨kept, hk, hf'⟩ := acceptSupplied_of_accept hf h
  have passes : failure? (p.input id method c a) = none := by
    rw [failure?_input, claimFault?, hk]
    exact Supplied.fault?_of_admits admitted p.takesTarget method
  obtain ⟨⟨x, claimed⟩, hi⟩ := failure?_eq_none_iff.1 passes
  obtain rfl := Except.ok.inj (hk.symm.trans (acceptSupplied_of_input hi))
  exact ⟨x, kept, hi, hk, hf'⟩

/-- The run over the admitted arguments of rejected parameters. When a second target was rejected,
the two loops have to see the same targets. -/
theorem inputs_of_acceptFrom_error {c d : Claims} (hf : c.Follows d) {i : Nat}
    {qs : List Parameter} {e : ValidationError} (h : p.acceptFrom method d i qs = .error e)
    {vs : List (Option Value)} (hv : List.Forall₂ Parameter.Admits qs vs)
    (ht : e = .multipleTargets method → c = d ∧
      ∀ a ∈ Supplied.pair i qs vs, p.takesTarget a.parameter = true → a.value ≠ none)
    (id : Identity) :
    ∃ f, e.atCall? = some f ∧ p.inputs id method c (Supplied.pair i qs vs) = .error f := by
  induction hv generalizing c d i with
  | nil => simp [acceptFrom] at h
  | @cons q v qs vs hq _ ih =>
    let a : Supplied := ⟨q, v, i⟩
    rw [acceptFrom] at h
    rw [Supplied.pair] at ht
    rw [Supplied.pair, inputs]
    cases ha : p.acceptParameter method d i q with
    | error e' =>
      rw [ha] at h
      obtain rfl := Except.error.inj h
      obtain ⟨f, hef, hi⟩ := input_of_reject hf (a := a) hq ha
        (fun he => ⟨(ht he).1, (ht he).2 a List.mem_cons_self⟩) id
      refine ⟨f, hef, ?_⟩
      rw [hi]
    | ok after =>
      rw [ha] at h
      obtain ⟨x, kept, hi, hk, hf'⟩ := input_of_accept hf (a := a) hq ha id
      -- Without null targets the two loops claim the same, not only related things.
      have same : e = .multipleTargets method → kept = after := by
        intro he
        obtain ⟨rfl, hn⟩ := ht he
        rw [acceptSupplied_eq (hn a List.mem_cons_self)] at hk
        exact Except.ok.inj (hk.symm.trans ha)
      obtain ⟨f, hef, hrest⟩ := ih hf' h fun he =>
        ⟨same he, fun b hb => (ht he).2 b (List.mem_cons_of_mem _ hb)⟩
      refine ⟨f, hef, ?_⟩
      rw [hi]
      simp only [hrest]

/-- A call of a rejected method fails as the method was rejected. -/
theorem adapt_of_reject {c : Call} (hc : c.method.Admits c.values) {e : ValidationError}
    (h : p.accept c.method = .error e)
    (ht : e = .multipleTargets c.method.name →
      ∀ a ∈ c.arguments, p.takesTarget a.parameter = true → a.value ≠ none) :
    ∃ f, e.atCall? = some f ∧ p.adapt c = .error f :=
  inputs_of_acceptFrom_error (.refl .none) h hc (fun he => ⟨rfl, ht he⟩) c.identity

/-- **Acceptance foretells adaptation.** Calls with admitted values succeed if the method is
accepted, and fail for the reason for which it is rejected otherwise. -/
theorem adapt_agrees_with_accept (p : NamedArguments) (c : Call)
    (hc : c.method.Admits c.values) :
    (p.accept c.method = .ok () → ∃ inputs, p.adapt c = .ok inputs) ∧
    (∀ method position type,
      p.accept c.method = .error (.unsupportedParameter method position type) →
        p.adapt c = .error (.unsupportedParameter method position type)) ∧
    (∀ method position label,
      p.accept c.method = .error (.unresolvableName method position label) →
        p.adapt c = .error (.unresolvableName method position)) ∧
    (∀ method name,
      p.accept c.method = .error (.duplicateName method name) →
        p.adapt c = .error (.duplicateName method name)) ∧
    (∀ method,
      p.accept c.method = .error (.multipleTargets method) →
        (∀ a ∈ c.arguments, p.route? a.parameter = some .target → a.value ≠ none) →
          p.adapt c = .error (.multipleTargets method)) := by
  have rejected : ∀ {e f}, p.accept c.method = .error e → e.atCall? = some f →
      (e = .multipleTargets c.method.name →
        ∀ a ∈ c.arguments, p.takesTarget a.parameter = true → a.value ≠ none) →
      p.adapt c = .error f := by
    intro e f h hf ht
    obtain ⟨g, hg, ha⟩ := adapt_of_reject hc h ht
    rw [hf] at hg
    cases hg
    exact ha
  refine ⟨?_, ?_, ?_, ?_, ?_⟩
  · intro h
    have passes := failure?_inputs (.refl .none) h c.values c.identity
    rw [List.findSome?_eq_none_iff.2] at passes
    · exact failure?_eq_none_iff.1 passes
    · intro a ha
      exact Supplied.fault?_of_admits (Supplied.forall_pair hc a ha) _ _
  · intro method position type h
    exact rejected h rfl (by simp)
  · intro method position label h
    exact rejected h rfl (by simp)
  · intro method name h
    exact rejected h rfl (by simp)
  · intro method h ht
    exact rejected h rfl fun _ a ha hr => ht a ha (takesTarget_iff.1 hr)

/-- A call with a null tag under the name of the string before it. -/
def repeatedName : Call where
  method :=
    { name := "greet"
      parameters :=
        [{ type := .string, name := some "who" },
          { type := .tag, name := some "who", nullable := true }] }
  values := [some (.string "Ada"), none]
  identity := ⟨[0]⟩
  arity := rfl

theorem adapt_repeatedName :
    repeatedName.method.Admits repeatedName.values ∧
      (⟨.standard, .declared⟩ : NamedArguments).adapt repeatedName =
        .error (.duplicateName "greet" "who") := by
  have admitted : repeatedName.method.Admits repeatedName.values := by
    unfold Signature.Admits repeatedName
    decide
  have rejected : (⟨.standard, .declared⟩ : NamedArguments).accept repeatedName.method =
      .error (.duplicateName "greet" "who") := by
    decide
  exact ⟨admitted,
    (adapt_agrees_with_accept _ repeatedName admitted).2.2.2.1 "greet" "who" rejected⟩

end NamedArguments

end MessageDispatch
