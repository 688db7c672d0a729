import MessageDispatch.Contract.Signature
import MessageDispatch.Error

/-!
# Calls

A call pairs each parameter of a method with the value passed for it, or with null. There is one
value for each parameter; a value list of another length makes no call.
-/

namespace MessageDispatch

/-- One argument of a call: the parameter, the value or null, and the position. -/
structure Supplied where
  parameter : Parameter
  value : Option Value
  index : Nat

/-- Pairs parameters with values; positions count from `i`. -/
def Supplied.pair : Nat → List Parameter → List (Option Value) → List Supplied
  | i, p :: ps, v :: vs => ⟨p, v, i⟩ :: Supplied.pair (i + 1) ps vs
  | _, _, _ => []

theorem Supplied.length_pair {i : Nat} {ps : List Parameter} {vs : List (Option Value)}
    (h : vs.length = ps.length) : (Supplied.pair i ps vs).length = ps.length := by
  induction ps generalizing i vs with
  | nil => simp [pair]
  | cons p ps ih =>
    cases vs with
    | nil => cases h
    | cons v vs => simp [pair, ih (Nat.succ.inj h)]

/-- A method together with the values it is called with. The identity tells the objects built for
this call from all others. -/
structure Call where
  method : Signature
  values : List (Option Value)
  identity : Identity
  arity : values.length = method.parameters.length

namespace Call

/-- The call of a method with given values. -/
def of? (id : Identity) (m : Signature) (values : List (Option Value)) :
    Except InvocationError Call :=
  if h : values.length = m.parameters.length then .ok ⟨m, values, id, h⟩
  else .error (.arityMismatch m.name m.parameters.length values.length)

/-- The arguments in the order of the parameters. -/
def arguments (c : Call) : List Supplied :=
  Supplied.pair 0 c.method.parameters c.values

theorem length_arguments (c : Call) : c.arguments.length = c.method.parameters.length :=
  Supplied.length_pair c.arity

end Call

/-- How the value of an argument is shown in diagnostics. -/
def describeValue (v : Option Value) : String :=
  if v.isSome then "InvocationValue(..)" else "InvocationValue(null)"

namespace Supplied

/-- The value of an argument. Null is an error unless the parameter allows it. -/
def present (method : String) (a : Supplied) : Except InvocationError (Option Value) :=
  match a.value with
  | some v => .ok (some v)
  | none =>
    if a.parameter.nullable then .ok none
    else .error (.nullArgument method a.parameter.label)

end Supplied

end MessageDispatch
