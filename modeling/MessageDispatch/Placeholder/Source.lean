import MessageDispatch.Probe
import MessageDispatch.TagBundle

/-!
# Sources of placeholders

A source gives the tags of each scope. A process can have one source installed, and the first
installation stands. Whether the process has a source at all is probed once: the first time it
matters settles it for good, so a source that is installed later is never used by the decorators,
although `Installation.placeholders` finds it.
-/

namespace MessageDispatch

/-- The tags of each scope. -/
abbrev PlaceholderSource : Type :=
  Scope → TagBundle

/-- Why a source was not installed. -/
inductive PlaceholderError where
  | alreadyInstalled
  deriving DecidableEq, Repr

/-- The stable code of the error. -/
def PlaceholderError.code : PlaceholderError → String
  | .alreadyInstalled => "already_installed"

/-- The text of the error. -/
def PlaceholderError.message : PlaceholderError → String
  | .alreadyInstalled => "a placeholder source is already installed"

/-- What a process knows of placeholders: the installed source, and what was probed of it. -/
structure Installation where
  installed : Option PlaceholderSource
  verdict : Capability

namespace Installation

/-- A process at its start. -/
def start : Installation :=
  ⟨none, .unknown⟩

/-- Installs a source, unless there is one. -/
def install (s : Installation) (source : PlaceholderSource) :
    Except PlaceholderError Unit × Installation :=
  match s.installed with
  | some _ => (.error .alreadyInstalled, s)
  | none => (.ok (), { s with installed := some source })

/-- The tags of a scope, by the installed source. -/
def placeholders (s : Installation) (scope : Scope) : Option TagBundle :=
  s.installed.map (· scope)

/-- Whether a source was installed when this was first asked. -/
def probe (s : Installation) : Bool × Installation :=
  match s.verdict.answer? with
  | some b => (b, s)
  | none => (s.installed.isSome, { s with verdict := .ofAnswer s.installed.isSome })

end Installation

/-- Where a decorator takes its source from. -/
inductive SourceBinding where
  | processWide
  | explicit (source : PlaceholderSource)

namespace SourceBinding

/-- The source to use, if there is one. -/
def source? (b : SourceBinding) (s : Installation) : Option PlaceholderSource × Installation :=
  match b with
  | .explicit source => (some source, s)
  | .processWide =>
    match s.probe with
    | (true, s) => (s.installed, s)
    | (false, s) => (none, s)

/-- The label of a binding. -/
def label : SourceBinding → String
  | .processWide => "process_wide"
  | .explicit _ => "explicit"

end SourceBinding

end MessageDispatch
