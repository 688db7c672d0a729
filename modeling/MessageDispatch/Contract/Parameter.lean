import MessageDispatch.Value

/-!
# Parameters

A parameter declares the type of one argument of a method, and how the argument is called: by an
explicit template name, or by the identifier it had in the program. Any parameter can be declared as
the target of the method; one of type target always is.
-/

namespace MessageDispatch

/-- The declaration of one argument. -/
structure Parameter where
  type : Ty
  /-- Declared as the target, whatever its type. -/
  asTarget : Bool := false
  name : Option String := none
  identifier : Option String := none
  nullable : Bool := false

namespace Parameter

/-- The argument may designate whom the message is formatted for. -/
def isTarget (p : Parameter) : Bool :=
  p.asTarget || p.type == .target

/-- The target that an argument designates. A ready-made target stands for itself; any other value
has to be of the declared type of a parameter that was declared as the target, and becomes the
content of a new target. -/
def toTarget (p : Parameter) (id : Identity) (v : Value) : Option Target :=
  match v with
  | .target t => some t
  | _ => if p.asTarget && v.ty == p.type then some ⟨v, id⟩ else none

/-- What a parameter is called in messages. -/
def label (p : Parameter) : String :=
  (p.name <|> p.identifier).getD "<unnamed>"

end Parameter

end MessageDispatch
