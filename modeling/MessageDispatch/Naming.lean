import MessageDispatch.Contract.Parameter
import MessageDispatch.Text.SnakeCase

/-!
# Template names of parameters

A naming gives a parameter the name under which a template knows it. The declared naming takes
explicit names only; the other built-in one makes a name from the identifier of a parameter that has
no explicit name. An explicit name that is empty is no name, and stands in the way of the
identifier.
-/

namespace MessageDispatch

/-- Where template names come from. -/
inductive Naming where
  | declared
  | declaredOrIdentifier
  | custom (resolve : Parameter → Option String) (supports : Parameter → Bool)

namespace Naming

instance : Inhabited Naming :=
  ⟨declared⟩

/-- The text, unless it is empty. -/
def nonempty? (s : String) : Option String :=
  if s.isEmpty then none else some s

/-- The name of a parameter. -/
def resolve (n : Naming) (p : Parameter) : Option String :=
  match n with
  | .declared => p.name.bind nonempty?
  | .declaredOrIdentifier =>
    match p.name with
    | some name => nonempty? name
    | none => (p.identifier.bind nonempty?).map snakeCase
  | .custom resolve _ => resolve p

/-- The naming claims to have a name for the parameter. -/
def supports (n : Naming) (p : Parameter) : Bool :=
  match n with
  | .custom _ supports => supports p
  | _ => (n.resolve p).isSome

/-- How a naming is shown in diagnostics. -/
def describe : Naming → String
  | .declared => "NameResolver::Declared"
  | .declaredOrIdentifier => "NameResolver::DeclaredOrIdentifier"
  | .custom .. => "NameResolver::Custom(..)"

end Naming

end MessageDispatch
