import MessageDispatch.Contract.Parameter

/-!
# Signatures of methods

The signature of a method is all that policies see of it: its name, the declared key and wordings,
the parameters, the return type, and markers. A method has at most one marker of each type;
attaching another one of the same type replaces it.
-/

namespace MessageDispatch

/-- The wording of a message in one locale. -/
structure Wording where
  locale : String
  content : String
  deriving DecidableEq

/-- The declaration of a method. -/
structure Signature where
  name : String
  key : Option String := none
  wordings : List Wording := []
  parameters : List Parameter := []
  returns : Ty := .text
  markers : List Value := []

namespace Signature

/-- Attaches a marker, in place of an earlier one of its type. -/
def mark (m : Signature) (marker : Value) : Signature :=
  { m with markers := marker :: m.markers.filter (·.ty != marker.ty) }

/-- The marker of a type. -/
def marker? (m : Signature) (t : Ty) : Option Value :=
  m.markers.find? (·.ty == t)

/-- The placeholder scope that the method is marked with. -/
def scope? (m : Signature) : Option Scope :=
  match m.marker? .scope with
  | some (.scope s) => some s
  | _ => none

theorem marker?_mark_self (m : Signature) (marker : Value) :
    (m.mark marker).marker? marker.ty = some marker := by
  simp [mark, marker?]

theorem marker?_mark_of_ne (m : Signature) {marker : Value} {t : Ty} (h : marker.ty ≠ t) :
    (m.mark marker).marker? t = m.marker? t := by
  simp only [mark, marker?, List.find?_cons, beq_eq_false_iff_ne.2 h]
  induction m.markers with
  | nil => rfl
  | cons v rest ih =>
    by_cases hv : v.ty = marker.ty
    · have hne : v.ty ≠ t := hv ▸ h
      simp [hv, h, ih]
    · by_cases ht : v.ty = t
      · simp [ht, Ne.symm h]
      · simp [hv, ht, ih]

end Signature

end MessageDispatch
