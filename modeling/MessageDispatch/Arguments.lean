import MessageDispatch.Arguments.Named
import MessageDispatch.Placeholder.Source

/-!
# Argument policies

An argument policy turns the arguments of a call into template inputs, and accepts the methods whose
calls it can serve. Besides the positional and the named policy there are custom ones, and a
decorator for any of them: it adds, after the inputs of the policy below it, the placeholders of the
scope that the method is marked with, and accepts what that policy accepts.
-/

namespace MessageDispatch

/-- A way of turning arguments into inputs. -/
inductive ArgumentPolicy where
  | positional (policy : PositionalArguments)
  | named (policy : NamedArguments)
  | placeholders (base : ArgumentPolicy) (source : SourceBinding)
  | custom (adapt : Call → Installation → Except InvocationError (List Input) × Installation)
      (accept : Signature → Except ValidationError Unit)

namespace ArgumentPolicy

instance : Inhabited ArgumentPolicy :=
  ⟨named ⟨default, default⟩⟩

/-- Adds the placeholders of a call to its inputs. -/
def decorate (b : SourceBinding) (c : Call) (inputs : List Input) (s : Installation) :
    List Input × Installation :=
  match c.method.scope? with
  | none => (inputs, s)
  | some scope =>
    match b.source? s with
    | (none, s) => (inputs, s)
    | (some source, s) => (inputs ++ [.bundle (source scope)], s)

/-- The inputs of a call. -/
def adapt :
    ArgumentPolicy → Call → Installation → Except InvocationError (List Input) × Installation
  | .positional p, c, s => (p.adapt c, s)
  | .named p, c, s => (p.adapt c, s)
  | .placeholders base b, c, s =>
    match base.adapt c s with
    | (.error e, s) => (.error e, s)
    | (.ok inputs, s) =>
      match decorate b c inputs s with
      | (inputs, s) => (.ok inputs, s)
  | .custom adapt _, c, s => adapt c s

/-- Accepts the methods whose calls the policy serves. -/
def accept : ArgumentPolicy → Signature → Except ValidationError Unit
  | .positional p, m => p.accept m
  | .named p, m => p.accept m
  | .placeholders base _, m => base.accept m
  | .custom _ accept, m => accept m

/-- How diagnostics show an argument policy; a decorated policy is as opaque as a custom one. -/
def describe : ArgumentPolicy → String
  | .positional p => s!"ArgumentPolicy::Positional({p.describe})"
  | .named p => s!"ArgumentPolicy::Named({p.describe})"
  | .placeholders .. => "ArgumentPolicy::Custom(..)"
  | .custom .. => "ArgumentPolicy::Custom(..)"

/-- How a decorator is shown in diagnostics when its parts are asked for. -/
def describeDecorator (base : ArgumentPolicy) (b : SourceBinding) : String :=
  s!"PlaceholdersArgumentPolicy \x7b base: {base.describe}, source: \"{b.label}\" \x7d"

end ArgumentPolicy

end MessageDispatch
