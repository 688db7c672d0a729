import MessageDispatch.Arguments.Positional
import MessageDispatch.Proofs.Fault

/-!
# Positional adaptation

Of a method that the positional policy accepts, every argument has a conversion. So a call fails at
the first argument that its parameter does not admit, and at no other.
-/

namespace MessageDispatch

/-- Conversion by an adapter that supports the parameter fails on values of other types only. -/
theorem Adapter.failure?_adaptSupplied {adapter : Adapter} {a : Supplied}
    (hs : adapter.supports a.parameter.type = true) (takesTarget : Parameter → Bool)
    (ht : takesTarget a.parameter = false) (id : Identity) (method : String) :
    failure? (adapter.adaptSupplied id method a a.value) = a.typeFault? takesTarget method := by
  unfold adaptSupplied Supplied.typeFault?
  cases a.value with
  | none => rfl
  | some v =>
    obtain ⟨convert, hc⟩ := Option.isSome_iff_exists.1 hs
    by_cases hv : v.ty = a.parameter.type
    · have hsome : v.as? a.parameter.type ≠ none := fun h => Value.as?_eq_none_iff.1 h hv
      obtain ⟨x, hx⟩ := Option.ne_none_iff_exists'.1 hsome
      simp [adapt, hc, hx, hv]
    · have hnone : v.as? a.parameter.type = none := Value.as?_eq_none_iff.2 hv
      simp [adapt, hc, hnone, hv, ht, InvocationError.ofRegistry]

/-- A value that is converted is of the declared type, and there is a conversion for that. -/
theorem Adapter.exists_of_adaptSupplied {adapter : Adapter} {a : Supplied} {id : Identity}
    {method : String} {v : Value} {argument : Argument}
    (h : adapter.adaptSupplied id method a (some v) = .ok argument) :
    ∃ convert x, adapter.conversions.find? a.parameter.type = some convert ∧
      v = .of a.parameter.type x ∧ argument = convert (id.part a.index) x := by
  simp only [adaptSupplied, adapt] at h
  cases hc : adapter.conversions.find? a.parameter.type with
  | none => simp [hc] at h
  | some convert =>
    cases hv : v.as? a.parameter.type with
    | none => simp [hc, hv] at h
    | some x =>
      simp only [hc, hv, Except.ok.injEq] at h
      exact ⟨convert, x, rfl, Value.as?_eq_some_iff.1 hv, h.symm⟩

namespace PositionalArguments

variable {p : PositionalArguments}

/-- One argument whose type is supported. -/
theorem failure?_input {a : Supplied} (hs : p.adapter.supports a.parameter.type = true)
    (id : Identity) (method : String) :
    failure? (p.input id method a) = a.fault? (fun _ => false) method := by
  unfold input Supplied.fault?
  rw [← a.failure?_present]
  cases hp : a.present method with
  | error e => rfl
  | ok v =>
    obtain rfl := Supplied.eq_of_present hp
    rw [failure?_ok, Option.none_or,
      ← Adapter.failure?_adaptSupplied hs (fun _ => false) rfl id]
    cases ha : p.adapter.adaptSupplied id method a a.value <;> simp [ha]

/-- The run stops at the first argument that fails. -/
theorem failure?_inputs_eq_findSome? {id : Identity} {method : String}
    {f : Supplied → Option InvocationError} {as : List Supplied}
    (h : ∀ a ∈ as, failure? (p.input id method a) = f a) :
    failure? (p.inputs id method as) = as.findSome? f := by
  induction as with
  | nil => rfl
  | cons a as ih =>
    have first := h a List.mem_cons_self
    have rest := ih fun b hb => h b (List.mem_cons_of_mem a hb)
    rw [inputs, List.findSome?_cons, ← first]
    cases p.input id method a with
    | error e => rfl
    | ok x =>
      simp only [failure?_ok, ← rest]
      cases p.inputs id method as <;> rfl

/-- Accepted are the parameters of supported types. -/
theorem acceptFrom_eq_ok_iff {method : String} {i : Nat} {qs : List Parameter} :
    p.acceptFrom method i qs = .ok () ↔ ∀ q ∈ qs, p.adapter.supports q.type = true := by
  induction qs generalizing i with
  | nil => simp [acceptFrom]
  | cons q qs ih =>
    rw [acceptFrom, List.forall_mem_cons]
    cases hs : p.adapter.supports q.type with
    | true => simp [ih]
    | false => simp

/-- The run over the arguments of accepted parameters. -/
theorem failure?_inputs {method : String} {i : Nat} {qs : List Parameter}
    (h : p.acceptFrom method i qs = .ok ()) (vs : List (Option Value)) (id : Identity) :
    failure? (p.inputs id method (Supplied.pair i qs vs)) =
      (Supplied.pair i qs vs).findSome? (·.fault? (fun _ => false) method) := by
  apply failure?_inputs_eq_findSome?
  intro a ha
  have hq : a.parameter ∈ qs := Supplied.parameter_mem_of_mem_pair ha
  exact failure?_input (acceptFrom_eq_ok_iff.1 h _ hq) id method

end PositionalArguments

end MessageDispatch
