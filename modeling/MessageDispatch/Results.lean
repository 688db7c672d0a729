import MessageDispatch.Call
import MessageDispatch.Registry.Transformer
import MessageDispatch.Text

/-!
# Results of messages

The result policy turns the translatable node of a call into the value that the method returns. The
no-operation policy returns the node itself, to the methods whose return type can hold it. The
standard policy renders the node when its transformer has a rendering for the return type, and else
does the same.
-/

namespace MessageDispatch

/-- A way of making the value that a method returns. -/
inductive ResultPolicy where
  | noOperation
  | standard (transformer : Transformer)
  | custom (transform : Translatable → Call → Except InvocationError Value)
      (accept : Signature → Except ValidationError Unit)

namespace ResultPolicy

instance : Inhabited ResultPolicy :=
  ⟨noOperation⟩

/-- The node as the value that the method returns. -/
def unchanged (n : Translatable) (m : Signature) : Except InvocationError Value :=
  match n.assign? m.returns with
  | some v => .ok v
  | none => .error (.unsupportedReturnType m.name m.returns)

/-- The value that a call returns for its node. -/
def transform (p : ResultPolicy) (n : Translatable) (c : Call) : Except InvocationError Value :=
  match p with
  | .noOperation => unchanged n c.method
  | .standard transformer =>
    if transformer.supports c.method.returns then
      match transformer.transform c.method.returns (.translatable n) with
      | .ok v => .ok v
      | .error _ => .error (.unsupportedReturnType c.method.name c.method.returns)
    else unchanged n c.method
  | .custom transform _ => transform n c

/-- Accepts the methods whose return type the policy can serve. -/
def accept (p : ResultPolicy) (m : Signature) : Except ValidationError Unit :=
  match p with
  | .noOperation =>
    if Translatable.isAssignableTo m.returns then .ok ()
    else .error (.notNodeSupertype m.name m.returns)
  | .standard transformer =>
    if transformer.supports m.returns || Translatable.isAssignableTo m.returns then .ok ()
    else .error (.unsupportedReturnType m.name m.returns)
  | .custom _ accept => accept m

/-- How a result policy is shown in diagnostics. -/
def describe : ResultPolicy → String
  | .noOperation => "ResultPolicy::NoOperation"
  | .standard transformer => s!"ResultPolicy::Standard({transformer.describe})"
  | .custom .. => "ResultPolicy::Custom(..)"

end ResultPolicy

end MessageDispatch
