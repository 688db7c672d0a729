import Mathlib.Data.List.Forall2
import MessageDispatch.Call

/-!
# Faults of arguments

What a caller owes an argument is said by its parameter alone: null only where the parameter is
nullable, and otherwise a value of the declared type (`Parameter.Admits`). `Supplied.fault?` is the
error of an argument that breaks this. The error of a whole conversion is read off by `failure?`,
so that statements about loops that stop at the first error are equations between options.
-/

namespace MessageDispatch

section Failure

variable {ε α : Type}

/-- The error that a result reports. -/
def failure? : Except ε α → Option ε
  | .error e => some e
  | .ok _ => none

@[simp] theorem failure?_error (e : ε) : failure? (.error e : Except ε α) = some e :=
  rfl

@[simp] theorem failure?_ok (x : α) : failure? (.ok x : Except ε α) = none :=
  rfl

theorem failure?_eq_some_iff {r : Except ε α} {e : ε} : failure? r = some e ↔ r = .error e := by
  cases r <;> simp

theorem failure?_eq_none_iff {r : Except ε α} : failure? r = none ↔ ∃ x, r = .ok x := by
  cases r <;> simp

end Failure

/-- A search finds what the first element has that it accepts. -/
theorem findSome?_eq_some_iff_least {α β : Type} {f : α → Option β} {xs : List α} {b : β} :
    xs.findSome? f = some b ↔
      ∃ (i : Nat) (x : α), xs[i]? = some x ∧ f x = some b ∧
        ∀ j < i, ∀ y, xs[j]? = some y → f y = none := by
  induction xs with
  | nil => simp
  | cons x xs ih =>
    rw [List.findSome?_cons]
    constructor
    · intro h
      cases hx : f x with
      | some c =>
        rw [hx] at h
        exact ⟨0, x, rfl, hx.trans h, fun j hj => absurd hj (Nat.not_lt_zero j)⟩
      | none =>
        rw [hx] at h
        obtain ⟨i, y, hy, hb, least⟩ := ih.1 h
        refine ⟨i + 1, y, hy, hb, fun j hj z hz => ?_⟩
        cases j with
        | zero =>
          cases hz
          exact hx
        | succ j => exact least j (by omega) z hz
    · rintro ⟨i, y, hy, hb, least⟩
      cases i with
      | zero =>
        cases hy
        rw [hb]
      | succ i =>
        rw [least 0 (by omega) x rfl]
        exact ih.2 ⟨i, y, hy, hb, fun j hj => least (j + 1) (by omega)⟩

/-- A parameter admits null if it is nullable, and every value of its type. -/
def Parameter.Admits (q : Parameter) : Option Value → Prop
  | none => q.nullable = true
  | some v => v.ty = q.type

/-- A method admits one value for each parameter, of those that the parameter admits. -/
def Signature.Admits (m : Signature) (values : List (Option Value)) : Prop :=
  List.Forall₂ Parameter.Admits m.parameters values

/-- What a call may pass for a parameter: what it admits, and a ready-made target where the policy
takes the argument as the target. -/
def Parameter.Accepts (takesTarget : Parameter → Bool) (q : Parameter) (v : Option Value) : Prop :=
  q.Admits v ∨ takesTarget q = true ∧ ∃ t, v = some (.target t)

instance (q : Parameter) (v : Option Value) : Decidable (q.Admits v) :=
  match v with
  | none => inferInstanceAs (Decidable (q.nullable = true))
  | some v => inferInstanceAs (Decidable (v.ty = q.type))

namespace Parameter

/-- A value that is no ready-made target makes one with a target parameter of its type. -/
theorem toTarget_of_ne {q : Parameter} {v : Value} (hv : v.ty ≠ .target) (id : Identity) :
    q.toTarget id v = if q.asTarget && v.ty == q.type then some ⟨v, id⟩ else none := by
  unfold toTarget
  split
  · simp [Value.ty] at hv
  · rfl

/-- A ready-made target stands for itself with every parameter. -/
theorem toTarget_eq_some_iff {q : Parameter} {id : Identity} {v : Value} {t : Target} :
    q.toTarget id v = some t ↔
      v = .target t ∨ v.ty ≠ .target ∧ q.asTarget = true ∧ v.ty = q.type ∧ t = ⟨v, id⟩ := by
  by_cases hv : v.ty = .target
  · obtain ⟨u, rfl⟩ : ∃ u, v = .target u := by cases v <;> simp_all [Value.ty]
    simp [toTarget, hv]
  · have hne : v ≠ .target t := fun h => hv (by rw [h]; rfl)
    rw [toTarget_of_ne hv]
    simp [hv, hne, and_assoc, @eq_comm _ t]

/-- A parameter that may be the target refuses what is neither of its type nor a target. -/
theorem toTarget_eq_none_iff {q : Parameter} (hq : q.isTarget = true) (id : Identity) (v : Value) :
    q.toTarget id v = none ↔ ¬ (v.ty = q.type ∨ v.ty = .target) := by
  by_cases hv : v.ty = .target
  · obtain ⟨t, rfl⟩ : ∃ t, v = .target t := by cases v <;> simp_all [Value.ty]
    simp [toTarget, hv]
  · have hd : q.type = .target → v.ty ≠ q.type := fun e => e ▸ hv
    simp only [isTarget, Bool.or_eq_true, beq_iff_eq] at hq
    rw [toTarget_of_ne hv]
    rcases hq with ha | ht
    · simp [ha, hv]
    · simp [hd ht, hv]

end Parameter

namespace Supplied

/-- The error of a null that the parameter does not allow. -/
def nullFault? (method : String) (a : Supplied) : Option InvocationError :=
  match a.value with
  | none =>
    if a.parameter.nullable then none else some (.nullArgument method a.parameter.label)
  | some _ => none

/-- The error of a value that is not of the declared type. Parameters for which `takesTarget` holds
take ready-made targets besides. -/
def typeFault? (takesTarget : Parameter → Bool) (method : String) (a : Supplied) :
    Option InvocationError :=
  match a.value with
  | none => none
  | some v =>
    if v.ty = a.parameter.type ∨ (v.ty = .target ∧ takesTarget a.parameter = true) then none
    else some (.typeMismatch method a.index a.parameter.type)

/-- A value of a parameter that is the target is at fault when it makes no target. -/
theorem typeFault?_of_takesTarget {takesTarget : Parameter → Bool} {a : Supplied} {v : Value}
    (ht : takesTarget a.parameter = true) (hq : a.parameter.isTarget = true)
    (hv : a.value = some v) (id : Identity) (method : String) :
    a.typeFault? takesTarget method =
      match a.parameter.toTarget id v with
      | none => some (.typeMismatch method a.index a.parameter.type)
      | some _ => none := by
  have refused := Parameter.toTarget_eq_none_iff hq id v
  simp only [typeFault?, hv, ht, and_true]
  cases hto : a.parameter.toTarget id v with
  | none => rw [if_neg (refused.1 hto)]
  | some t =>
    rw [if_pos]
    by_contra h
    rw [refused.2 h] at hto
    cases hto

/-- The error of an argument that its parameter does not admit. -/
def fault? (takesTarget : Parameter → Bool) (method : String) (a : Supplied) :
    Option InvocationError :=
  (a.nullFault? method).or (a.typeFault? takesTarget method)

theorem failure?_present (method : String) (a : Supplied) :
    failure? (a.present method) = a.nullFault? method := by
  unfold present nullFault?
  cases a.value with
  | some v => rfl
  | none => cases a.parameter.nullable <;> rfl

theorem eq_of_present {method : String} {a : Supplied} {v : Option Value}
    (h : a.present method = .ok v) : v = a.value := by
  unfold present at h
  cases hv : a.value with
  | some w =>
    rw [hv] at h
    exact (Except.ok.inj h).symm
  | none =>
    cases hn : a.parameter.nullable <;> simp_all

section Faults

variable {takesTarget : Parameter → Bool} {method : String} {a : Supplied}

theorem fault?_eq_none_iff :
    a.fault? takesTarget method = none ↔ a.parameter.Accepts takesTarget a.value := by
  unfold fault? nullFault? typeFault? Parameter.Accepts Parameter.Admits
  cases a.value with
  | none => cases a.parameter.nullable <;> simp
  | some v =>
    have ht : (∃ t, v = .target t) ↔ v.ty = .target := by
      cases v <;> simp [Value.ty]
    by_cases hv : v.ty = a.parameter.type <;> simp [hv, ht, and_comm]

/-- A null that a parameter admits is no fault. -/
theorem nullFault?_of_admits {a : Supplied} (h : a.parameter.Admits a.value) (method : String) :
    a.nullFault? method = none := by
  unfold nullFault?
  cases hv : a.value with
  | some v => rfl
  | none =>
    rw [hv] at h
    exact if_pos h

/-- What a parameter admits is no fault of the caller. -/
theorem fault?_of_admits (h : a.parameter.Admits a.value) (takesTarget : Parameter → Bool)
    (method : String) : a.fault? takesTarget method = none :=
  fault?_eq_none_iff.2 (.inl h)

/-- The fault of a value that is not accepted: a null, or a value of another type. -/
theorem fault?_of_not_accepts (h : ¬ a.parameter.Accepts takesTarget a.value) :
    a.fault? takesTarget method =
      match a.value with
      | none => some (.nullArgument method a.parameter.label)
      | some _ => some (.typeMismatch method a.index a.parameter.type) := by
  have broken : a.fault? takesTarget method ≠ none := fun hf => h (fault?_eq_none_iff.1 hf)
  unfold fault? nullFault? typeFault? at *
  cases ha : a.value with
  | none =>
    simp only [ha, Option.or_none] at broken ⊢
    exact if_neg fun hn => broken (if_pos hn)
  | some v =>
    simp only [ha, Option.none_or] at broken ⊢
    exact if_neg fun hv => broken (if_pos hv)

end Faults

/-- The arguments of admitted values are admitted. -/
theorem forall_pair {i : Nat} {ps : List Parameter} {vs : List (Option Value)}
    (h : List.Forall₂ Parameter.Admits ps vs) :
    ∀ a ∈ pair i ps vs, a.parameter.Admits a.value := by
  induction h generalizing i with
  | nil => simp [pair]
  | cons hq _ ih =>
    intro a ha
    rw [pair, List.mem_cons] at ha
    rcases ha with rfl | ha
    · exact hq
    · exact ih a ha

/-- The argument at a place is made of the parameter and the value at that place. -/
theorem getElem?_pair_eq_some_iff {i : Nat} {ps : List Parameter} {vs : List (Option Value)}
    {j : Nat} {a : Supplied} :
    (pair i ps vs)[j]? = some a ↔
      ps[j]? = some a.parameter ∧ vs[j]? = some a.value ∧ a.index = i + j := by
  induction ps generalizing i vs j with
  | nil => simp [pair]
  | cons q ps ih =>
    cases vs with
    | nil => cases j <;> simp [pair]
    | cons v vs =>
      cases j with
      | zero =>
        obtain ⟨q', v', i'⟩ := a
        simp [pair, eq_comm]
      | succ j =>
        simp only [pair, List.getElem?_cons_succ, ih]
        rw [show i + 1 + j = i + (j + 1) by omega]

theorem parameter_mem_of_mem_pair {i : Nat} {ps : List Parameter} {vs : List (Option Value)}
    {a : Supplied} (h : a ∈ pair i ps vs) : a.parameter ∈ ps := by
  obtain ⟨j, hj⟩ := List.mem_iff_getElem?.1 h
  obtain ⟨hq, -, -⟩ := getElem?_pair_eq_some_iff.1 hj
  exact List.mem_of_getElem? hq

end Supplied

/-- The argument at a place of a call has the number of that place. -/
theorem Call.index_eq_of_getElem? {c : Call} {i : Nat} {a : Supplied}
    (h : c.arguments[i]? = some a) : a.index = i := by
  obtain ⟨-, -, number⟩ := Supplied.getElem?_pair_eq_some_iff.1 h
  rw [number, Nat.zero_add]

end MessageDispatch
