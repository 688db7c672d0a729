import MessageDispatch.Call
import MessageDispatch.Registry.Adapter

/-!
# Positional arguments

The positional policy converts every argument by the adapter and keeps the order of the parameters.
A null argument becomes the empty text. A method is accepted when the adapter supports the type of
each parameter.
-/

namespace MessageDispatch

/-- The argument that stands for null. -/
def Argument.null : Argument :=
  .component .empty

/-- Converts the value of an argument at its position, null included. -/
def Adapter.adaptSupplied (adapter : Adapter) (id : Identity) (method : String) (a : Supplied)
    (v : Option Value) : Except InvocationError Argument :=
  match v with
  | none => .ok .null
  | some v =>
    match adapter.adapt (id.part a.index) a.parameter.type v with
    | .ok argument => .ok argument
    | .error e => .error (.ofRegistry method a.index e)

/-- Arguments by position. -/
structure PositionalArguments where
  adapter : Adapter

namespace PositionalArguments

/-- The input of one argument. -/
def input (p : PositionalArguments) (id : Identity) (method : String) (a : Supplied) :
    Except InvocationError Input :=
  match a.present method with
  | .error e => .error e
  | .ok v =>
    match p.adapter.adaptSupplied id method a v with
    | .error e => .error e
    | .ok argument => .ok (.positional argument)

/-- The inputs of a list of arguments, up to the first that fails. -/
def inputs (p : PositionalArguments) (id : Identity) (method : String) :
    List Supplied → Except InvocationError (List Input)
  | [] => .ok []
  | a :: as =>
    match p.input id method a with
    | .error e => .error e
    | .ok i =>
      match p.inputs id method as with
      | .error e => .error e
      | .ok is => .ok (i :: is)

/-- The inputs of a call. -/
def adapt (p : PositionalArguments) (c : Call) : Except InvocationError (List Input) :=
  p.inputs c.identity c.method.name c.arguments

/-- Accepts the parameters from position `i` on whose types the adapter supports. -/
def acceptFrom (p : PositionalArguments) (method : String) :
    Nat → List Parameter → Except ValidationError Unit
  | _, [] => .ok ()
  | i, q :: qs =>
    if p.adapter.supports q.type then p.acceptFrom method (i + 1) qs
    else .error (.unsupportedParameter method i q.type)

/-- Accepts the methods whose calls can be converted. -/
def accept (p : PositionalArguments) (m : Signature) : Except ValidationError Unit :=
  p.acceptFrom m.name 0 m.parameters

/-- How the policy is shown in diagnostics. -/
def describe (p : PositionalArguments) : String :=
  s!"PositionalArgumentPolicy \x7b adapter: {p.adapter.describe} \x7d"

end PositionalArguments

end MessageDispatch
