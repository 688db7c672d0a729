import MessageDispatch.Call
import MessageDispatch.Text.Blank

/-!
# Keys of messages

The key policy gives a call its key into the translations. The declared policy takes the key of the
method's declaration and accepts a method only with a key that is not blank.
-/

namespace MessageDispatch

/-- Where the keys of messages come from. -/
inductive KeyPolicy where
  | declared
  | custom (resolve : Call → Except InvocationError String)
      (accept : Signature → Except ValidationError Unit)

namespace KeyPolicy

instance : Inhabited KeyPolicy :=
  ⟨declared⟩

/-- The key of a call. -/
def resolve (p : KeyPolicy) (c : Call) : Except InvocationError String :=
  match p with
  | .declared =>
    match c.method.key with
    | some key => .ok key
    | none => .error (.missingKey c.method.name)
  | .custom resolve _ => resolve c

/-- Accepts the methods whose calls get a key. -/
def accept (p : KeyPolicy) (m : Signature) : Except ValidationError Unit :=
  match p with
  | .declared =>
    match m.key with
    | some key => if isBlankText key then .error (.missingKey m.name) else .ok ()
    | none => .error (.missingKey m.name)
  | .custom _ accept => accept m

/-- How a key policy is shown in diagnostics. -/
def describe : KeyPolicy → String
  | .declared => "KeyPolicy::Declared"
  | .custom .. => "KeyPolicy::Custom(..)"

end KeyPolicy

end MessageDispatch
