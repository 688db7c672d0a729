import MessageDispatch.Audit
import MessageDispatch.Settings.Path

/-!
# Settings

Five settings choose the policies of a configuration and the sink of its binding events. Some
combinations contradict themselves: names of parameters mean nothing in the positional style, and a
path belongs to the file sink and to no other. `Settings.validate` refuses those, and paths outside
the limits.
-/

namespace MessageDispatch

/-- Where template names come from. -/
inductive NameStyle where
  | declared
  | declaredOrIdentifier
  deriving DecidableEq, Repr

/-- The naming of a style. -/
def NameStyle.naming : NameStyle → Naming
  | .declared => .declared
  | .declaredOrIdentifier => .declaredOrIdentifier

/-- What is made of the node of a call. -/
inductive ResultMode where
  | noOperation
  | standard
  deriving DecidableEq, Repr

/-- The kind of sink that binding events go to. -/
inductive SinkKind where
  | none
  | stderr
  | file
  deriving DecidableEq, Repr

/-- The settings on arguments; without `names`, declared names count. -/
structure ArgumentSettings where
  style : FormatStyle := .named
  names : Option NameStyle := none
  deriving DecidableEq

/-- The settings on results. -/
structure ResultSettings where
  mode : ResultMode := .noOperation
  deriving DecidableEq

/-- The settings on binding events. -/
structure AuditSettings where
  sink : SinkKind := .none
  path : Option String := none
  deriving DecidableEq

/-- All settings. -/
structure Settings where
  arguments : ArgumentSettings := {}
  result : ResultSettings := {}
  audit : AuditSettings := {}
  deriving DecidableEq

/-- The paths that limits apply to. -/
inductive PathRole where
  | settings
  | audit
  deriving DecidableEq, Repr

/-- What a path is called in messages. -/
def PathRole.label : PathRole → String
  | .settings => "config path"
  | .audit => "audit.path"

/-- Why there are no settings, or none that can be used. -/
inductive SettingsError where
  | inaccessible
  | malformed
  | oversized
  | notText
  | namesUnused
  | pathMissing
  | pathUnused
  | path (role : PathRole) (fault : Path.Fault)
  deriving DecidableEq, Repr

namespace SettingsError

/-- The stable code of the error. -/
def code : SettingsError → String
  | .inaccessible => "io"
  | .malformed => "parse"
  | _ => "invalid"

/-- What is wrong, where it can be said without the file system or the reader of documents. -/
def reason? : SettingsError → Option String
  | .inaccessible => none
  | .malformed => none
  | .oversized => some "config file exceeds size limit"
  | .notText => some "config file must be utf-8"
  | .namesUnused => some "arguments.names is only valid with named style"
  | .pathMissing => some "audit.path is required when audit.sink is file"
  | .pathUnused => some "audit.path is only valid when audit.sink is file"
  | .path role fault => some s!"{role.label} {fault.message}"

/-- The text of an error with a reason. -/
def message? (e : SettingsError) : Option String :=
  e.reason?.map fun reason => s!"invalid config: {reason}"

end SettingsError

/-- Checks a path against the limits. -/
def Path.checkAs (role : PathRole) (p : Path) : Except SettingsError Unit :=
  match p.check with
  | .ok () => .ok ()
  | .error fault => .error (.path role fault)

/-- Refuses names in the positional style. -/
def ArgumentSettings.validate (s : ArgumentSettings) : Except SettingsError Unit :=
  if s.style = .positional ∧ s.names.isSome then .error .namesUnused else .ok ()

/-- The path of the file of binding events, as it is used: blanks at its ends do not count. -/
def AuditSettings.filePath (path : String) : String :=
  trim path

/-- Accepts a path with the file sink only, and only within the limits. -/
def AuditSettings.validate (s : AuditSettings) : Except SettingsError Unit :=
  match s.sink, s.path with
  | .file, some path => (Path.ofString (filePath path)).checkAs .audit
  | .file, none => .error .pathMissing
  | _, some _ => .error .pathUnused
  | _, none => .ok ()

namespace Settings

/-- Refuses settings that contradict each other. -/
def validate (s : Settings) : Except SettingsError Unit :=
  match s.arguments.validate with
  | .error e => .error e
  | .ok () => s.audit.validate

/-- The configuration that the settings describe, over given registries. -/
def configuration (s : Settings) (adapter : Adapter) (transformer : Transformer) :
    Configuration where
  keys := .declared
  arguments :=
    match s.arguments.style with
    | .positional => .positional ⟨adapter⟩
    | .named => .named ⟨adapter, (s.arguments.names.getD .declared).naming⟩
  results :=
    match s.result.mode with
    | .noOperation => .noOperation
    | .standard => .standard transformer

/-- The sink that the settings describe; `opens` says which files can be opened for appending. -/
def auditSink (s : Settings) (opens : Path → Bool) : Except SettingsError AuditSink :=
  match s.audit.sink, s.audit.path with
  | .none, _ => .ok .discard
  | .stderr, _ => .ok .stderr
  | .file, some path =>
    let path := AuditSettings.filePath path
    if opens (Path.ofString path) then .ok (.file path) else .error .inaccessible
  | .file, none => .error .pathMissing

end Settings

end MessageDispatch
