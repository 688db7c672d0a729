import MessageDispatch.Proofs.Positional

/-!
# Nulls and the positional policy

Acceptance asks the adapter about every parameter, adaptation only about those that a value is
passed for: a null becomes the empty text at once. So a call with admitted values fails at the first
value whose type the adapter does not support (`PositionalArguments.adapt_eq_error_iff`), which need
not be the first parameter of such a type (`PositionalArguments.accept_eq_error_iff`). Acceptance
foretells adaptation exactly when null is not passed for the parameter at which it stops.
-/

namespace MessageDispatch.PositionalArguments

variable {p : PositionalArguments}

/-- A value was passed, and the adapter does not support the type of its parameter. -/
def LacksConversion (p : PositionalArguments) (a : Supplied) : Prop :=
  a.value ≠ none ∧ p.adapter.supports a.parameter.type = false

instance (p : PositionalArguments) (a : Supplied) : Decidable (p.LacksConversion a) :=
  inferInstanceAs (Decidable (_ ∧ _))

theorem not_lacksConversion {a : Supplied} (h : p.adapter.supports a.parameter.type = true) :
    ¬ p.LacksConversion a := by
  rintro ⟨-, unsupported⟩
  rw [h] at unsupported
  cases unsupported

/-- The error of a value that the adapter has no conversion for. -/
def unsupported? (p : PositionalArguments) (method : String) (a : Supplied) :
    Option InvocationError :=
  if p.LacksConversion a then some (.unsupportedParameter method a.index a.parameter.type) else none

theorem unsupported?_eq_some_iff {method : String} {a : Supplied} {e : InvocationError} :
    p.unsupported? method a = some e ↔
      p.LacksConversion a ∧ e = .unsupportedParameter method a.index a.parameter.type := by
  unfold unsupported?
  by_cases lacks : p.LacksConversion a
  · simp [lacks, eq_comm]
  · simp [lacks]

theorem unsupported?_eq_none_iff {method : String} {a : Supplied} :
    p.unsupported? method a = none ↔ ¬ p.LacksConversion a := by
  unfold unsupported?
  by_cases lacks : p.LacksConversion a <;> simp [lacks]

/-- An admitted argument fails for want of a conversion only. -/
theorem failure?_input_of_admits {a : Supplied} (admitted : a.parameter.Admits a.value)
    (id : Identity) (method : String) :
    failure? (p.input id method a) = p.unsupported? method a := by
  cases hs : p.adapter.supports a.parameter.type with
  | true =>
    rw [failure?_input hs, Supplied.fault?_of_admits admitted]
    exact (unsupported?_eq_none_iff.2 (not_lacksConversion hs)).symm
  | false =>
    have present : a.present method = .ok a.value := by
      have passes : failure? (a.present method) = none := by
        rw [Supplied.failure?_present, Supplied.nullFault?_of_admits admitted]
      obtain ⟨v, hv⟩ := failure?_eq_none_iff.1 passes
      rw [hv, Supplied.eq_of_present hv]
    have missing : p.adapter.conversions.find? a.parameter.type = none :=
      Option.isSome_eq_false_iff.1 hs |> Option.isNone_iff_eq_none.1
    rw [input, present]
    cases hv : a.value with
    | none => simp [Adapter.adaptSupplied, unsupported?, LacksConversion, hv]
    | some v =>
      simp [Adapter.adaptSupplied, Adapter.adapt, missing, InvocationError.ofRegistry,
        unsupported?, LacksConversion, hv, hs]

/-- Calls with admitted values fail at the first value that there is no conversion for. -/
theorem adapt_eq_error_iff {c : Call} (hc : c.method.Admits c.values) {e : InvocationError} :
    p.adapt c = .error e ↔
      ∃ i a, c.arguments[i]? = some a ∧ p.LacksConversion a ∧
        (∀ j < i, ∀ b, c.arguments[j]? = some b → ¬ p.LacksConversion b) ∧
        e = .unsupportedParameter c.method.name i a.parameter.type := by
  have run : failure? (p.adapt c) = c.arguments.findSome? (p.unsupported? c.method.name) :=
    failure?_inputs_eq_findSome? fun a ha =>
      failure?_input_of_admits (Supplied.forall_pair hc a ha) c.identity c.method.name
  rw [← failure?_eq_some_iff, run, findSome?_eq_some_iff_least]
  constructor
  · rintro ⟨i, a, ha, he, least⟩
    have place := Call.index_eq_of_getElem? ha
    obtain ⟨lacks, he⟩ := unsupported?_eq_some_iff.1 he
    refine ⟨i, a, ha, lacks, ?_, place ▸ he⟩
    intro j hj b hb
    exact unsupported?_eq_none_iff.1 (least j hj b hb)
  · rintro ⟨i, a, ha, lacks, least, he⟩
    have place := Call.index_eq_of_getElem? ha
    refine ⟨i, a, ha, unsupported?_eq_some_iff.2 ⟨lacks, place ▸ he⟩, ?_⟩
    intro j hj b hb
    exact unsupported?_eq_none_iff.2 (least j hj b hb)

/-- Parameters are rejected at the first one whose type the adapter does not support. -/
theorem acceptFrom_eq_error_iff {method : String} {i : Nat} {qs : List Parameter}
    {e : ValidationError} :
    p.acceptFrom method i qs = .error e ↔
      ∃ j q, qs[j]? = some q ∧ p.adapter.supports q.type = false ∧
        (∀ k < j, ∀ r, qs[k]? = some r → p.adapter.supports r.type = true) ∧
        e = .unsupportedParameter method (i + j) q.type := by
  induction qs generalizing i with
  | nil => simp [acceptFrom]
  | cons q qs ih =>
    rw [acceptFrom]
    cases hs : p.adapter.supports q.type with
    | false =>
      constructor
      · intro h
        have he : e = .unsupportedParameter method i q.type := (Except.error.inj h).symm
        exact ⟨0, q, rfl, hs, by omega, he⟩
      · rintro ⟨j, r, hr, -, least, he⟩
        cases j with
        | zero =>
          cases hr
          rw [he]
          rfl
        | succ j =>
          have passed := least 0 (by omega) q rfl
          rw [hs] at passed
          cases passed
    | true =>
      rw [if_pos rfl, ih]
      constructor
      · rintro ⟨j, r, hr, unsupported, least, he⟩
        refine ⟨j + 1, r, hr, unsupported, ?_, ?_⟩
        · intro k hk s hsome
          cases k with
          | zero =>
            cases hsome
            exact hs
          | succ k => exact least k (by omega) s hsome
        · rw [he, show i + 1 + j = i + (j + 1) by omega]
      · rintro ⟨j, r, hr, unsupported, least, he⟩
        cases j with
        | zero =>
          cases hr
          rw [hs] at unsupported
          cases unsupported
        | succ j =>
          refine ⟨j, r, hr, unsupported, ?_, ?_⟩
          · intro k hk s hsome
            exact least (k + 1) (by omega) s hsome
          · rw [he, show i + 1 + j = i + (j + 1) by omega]

theorem accept_eq_error_iff {m : Signature} {e : ValidationError} :
    p.accept m = .error e ↔
      ∃ i q, m.parameters[i]? = some q ∧ p.adapter.supports q.type = false ∧
        (∀ j < i, ∀ r, m.parameters[j]? = some r → p.adapter.supports r.type = true) ∧
        e = .unsupportedParameter m.name i q.type := by
  rw [accept, acceptFrom_eq_error_iff]
  simp only [Nat.zero_add]

/-- Acceptance of the method foretells the call: it succeeds if the method is accepted, and
otherwise fails at the parameter at which the method is rejected. -/
structure Mirrors (p : PositionalArguments) (c : Call) : Prop where
  succeeds : (∃ inputs, p.adapt c = .ok inputs) ↔ p.accept c.method = .ok ()
  fails : ∀ method i type, p.accept c.method = .error (.unsupportedParameter method i type) →
    p.adapt c = .error (.unsupportedParameter method i type)

/-- The argument at a place of a call. -/
theorem exists_argument (c : Call) {i : Nat} {q : Parameter} (hq : c.method.parameters[i]? = some q) :
    ∃ v, c.values[i]? = some v ∧ c.arguments[i]? = some ⟨q, v, i⟩ := by
  have bound : i < c.values.length := by
    have h := (List.getElem?_eq_some_iff.1 hq).1
    have count := c.arity
    omega
  refine ⟨c.values[i], List.getElem?_eq_getElem bound, ?_⟩
  exact Supplied.getElem?_pair_eq_some_iff.2
    ⟨hq, List.getElem?_eq_getElem bound, (Nat.zero_add i).symm⟩

/-- Calls of an accepted method succeed. -/
theorem adapt_of_accept {c : Call} (hc : c.method.Admits c.values)
    (h : p.accept c.method = .ok ()) : ∃ inputs, p.adapt c = .ok inputs := by
  cases ha : p.adapt c with
  | ok inputs => exact ⟨inputs, rfl⟩
  | error e =>
    obtain ⟨i, a, hi, lacks, -, -⟩ := (adapt_eq_error_iff hc).1 ha
    have hq : a.parameter ∈ c.method.parameters :=
      Supplied.parameter_mem_of_mem_pair (List.mem_of_getElem? hi)
    exact absurd lacks (not_lacksConversion (acceptFrom_eq_ok_iff.1 h _ hq))

/-- A call of a rejected method fails as the method does, if it has a value for the parameter at
which that one is rejected. -/
theorem adapt_of_reject {c : Call} (hc : c.method.Admits c.values) {method : String} {i : Nat}
    {type : Ty} (h : p.accept c.method = .error (.unsupportedParameter method i type))
    (passed : c.values[i]? ≠ some none) :
    p.adapt c = .error (.unsupportedParameter method i type) := by
  obtain ⟨j, q, hq, unsupported, least, he⟩ := accept_eq_error_iff.1 h
  obtain ⟨rfl, rfl, rfl⟩ := ValidationError.unsupportedParameter.inj he
  obtain ⟨v, hv, ha⟩ := exists_argument c hq
  refine (adapt_eq_error_iff hc).2 ⟨i, _, ha, ⟨?_, unsupported⟩, ?_, rfl⟩
  · intro null
    exact passed (hv.trans (congrArg some null))
  · intro j hj b hb
    obtain ⟨hr, -, -⟩ := Supplied.getElem?_pair_eq_some_iff.1 hb
    exact not_lacksConversion (least j hj _ hr)

/-- **What acceptance foretells of positional calls.** A call with admitted values fails exactly at
its first value of an unsupported type. This is what acceptance foretells, unless the call passes
null for the parameter at which acceptance stops. -/
theorem adapt_mirrors_accept_iff (p : PositionalArguments) (c : Call)
    (hc : c.method.Admits c.values) :
    (∀ e, p.adapt c = .error e ↔
      ∃ i a, c.arguments[i]? = some a ∧ p.LacksConversion a ∧
        (∀ j < i, ∀ b, c.arguments[j]? = some b → ¬ p.LacksConversion b) ∧
        e = .unsupportedParameter c.method.name i a.parameter.type) ∧
    (p.Mirrors c ↔
      ∀ method i type, p.accept c.method = .error (.unsupportedParameter method i type) →
        c.values[i]? ≠ some none) := by
  refine ⟨fun e => adapt_eq_error_iff hc, ?_, ?_⟩
  · intro mirrors method i type rejected null
    have fails := mirrors.fails _ _ _ rejected
    obtain ⟨j, a, ha, lacks, -, he⟩ := (adapt_eq_error_iff hc).1 fails
    obtain ⟨-, hv, -⟩ := Supplied.getElem?_pair_eq_some_iff.1 ha
    obtain ⟨-, rfl, -⟩ := InvocationError.unsupportedParameter.inj he
    exact lacks.1 (Option.some.inj (hv.symm.trans null))
  · intro passed
    have fails : ∀ method i type,
        p.accept c.method = .error (.unsupportedParameter method i type) →
          p.adapt c = .error (.unsupportedParameter method i type) := by
      intro method i type rejected
      exact adapt_of_reject hc rejected (passed _ _ _ rejected)
    refine ⟨⟨?_, adapt_of_accept hc⟩, fails⟩
    rintro ⟨inputs, hi⟩
    cases h : p.accept c.method with
    | ok => rfl
    | error e =>
      obtain ⟨i, q, -, -, -, rfl⟩ := accept_eq_error_iff.1 h
      rw [fails _ _ _ h] at hi
      cases hi

/-- A call that leaves out one guest and brings another; guests have no conversion. -/
def absentGuest : Call where
  method :=
    { name := "welcome"
      parameters :=
        [{ type := .host "Guest", identifier := some "first", nullable := true },
          { type := .host "Guest", identifier := some "second" }] }
  values := [none, some (.host "Guest" "Ada")]
  identity := ⟨[0]⟩
  arity := rfl

/-- The call fails at the second guest, the method is rejected at the first. -/
theorem adapt_absentGuest :
    absentGuest.method.Admits absentGuest.values ∧
      (⟨.standard⟩ : PositionalArguments).adapt absentGuest =
        .error (.unsupportedParameter "welcome" 1 (.host "Guest")) ∧
      ¬ (⟨.standard⟩ : PositionalArguments).Mirrors absentGuest := by
  have admitted : absentGuest.method.Admits absentGuest.values := by
    unfold Signature.Admits absentGuest
    decide
  have rejected : (⟨.standard⟩ : PositionalArguments).accept absentGuest.method =
      .error (.unsupportedParameter "welcome" 0 (.host "Guest")) := by
    decide
  obtain ⟨errors, mirrors⟩ := adapt_mirrors_accept_iff ⟨.standard⟩ absentGuest admitted
  refine ⟨admitted, (errors _).2 ⟨1, _, rfl, ?_, ?_, rfl⟩, ?_⟩
  · decide
  · intro j hj b hb lacks
    obtain rfl : j = 0 := by omega
    cases hb
    exact lacks.1 rfl
  · intro h
    exact mirrors.1 h _ _ _ rejected rfl

/-- A call that leaves out its only guest. -/
def noGuest : Call where
  method :=
    { name := "welcome"
      parameters := [{ type := .host "Guest", identifier := some "guest", nullable := true }] }
  values := [none]
  identity := ⟨[0]⟩
  arity := rfl

/-- A call succeeds whose method is rejected. -/
theorem adapt_noGuest_rejected :
    noGuest.method.Admits noGuest.values ∧
      (⟨.standard⟩ : PositionalArguments).accept noGuest.method =
        .error (.unsupportedParameter "welcome" 0 (.host "Guest")) ∧
      (∃ inputs, (⟨.standard⟩ : PositionalArguments).adapt noGuest = .ok inputs ∧
        inputs.length = 1 ∧ inputs[0]? = some (.positional .null)) ∧
      ¬ (⟨.standard⟩ : PositionalArguments).Mirrors noGuest := by
  have admitted : noGuest.method.Admits noGuest.values := by
    unfold Signature.Admits noGuest
    decide
  have rejected : (⟨.standard⟩ : PositionalArguments).accept noGuest.method =
      .error (.unsupportedParameter "welcome" 0 (.host "Guest")) := by
    decide
  refine ⟨admitted, rejected, ⟨_, rfl, rfl, rfl⟩, ?_⟩
  intro mirrors
  have accepted := mirrors.succeeds.1 ⟨_, rfl⟩
  rw [rejected] at accepted
  cases accepted

end MessageDispatch.PositionalArguments
