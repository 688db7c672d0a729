import MessageDispatch.Settings.Decode
import MessageDispatch.Toml.Document

/-!
# Loading settings

Settings are read from one file: the one that the caller names, else the one that an environment
variable names, else one in the working directory. Loading ends at the first thing that is wrong
with the path, the file, the document or the settings. The file system is a parameter, and
`Settings.loadBy` leaves open too how a text is read.
-/

namespace MessageDispatch.Settings

/-- The environment variable that names the file. -/
def pathVariable : String :=
  "PARLANCE_CONFIG"

/-- The name of the file when nothing else names one. -/
def defaultName : String :=
  "parlance.toml"

/-- The most bytes of a file. -/
def maxFileSize : Nat :=
  65536

/-- The settings that a text spells, whether or not they contradict each other. -/
def parse? (text : String) : Option Settings :=
  (Toml.document? text).bind decode?

/-- The path of the file. -/
def resolve (given environment : Option Path) : Path :=
  match given, environment with
  | some path, _ => path
  | none, some path => path
  | none, none => Path.ofString defaultName

/-- The settings in the bytes of a file; `decode` reads them from its text. -/
def ofBytes (decode : String → Option Settings) (bytes : ByteArray) :
    Except SettingsError Settings :=
  if maxFileSize < bytes.size then .error .oversized
  else
    match String.fromUTF8? bytes with
    | none => .error .notText
    | some text =>
      match decode text with
      | none => .error .malformed
      | some s =>
        match s.validate with
        | .error e => .error e
        | .ok () => .ok s

/-- Loads the settings; `read` gives the bytes of the files that can be read. -/
def loadBy (decode : String → Option Settings) (given environment : Option Path)
    (read : Path → Option ByteArray) : Except SettingsError Settings :=
  let path := resolve given environment
  match path.checkAs .settings with
  | .error e => .error e
  | .ok () =>
    match read path with
    | none => .error .inaccessible
    | some bytes => ofBytes decode bytes

/-- Loads the settings from a document. -/
def load (given environment : Option Path) (read : Path → Option ByteArray) :
    Except SettingsError Settings :=
  loadBy parse? given environment read

end MessageDispatch.Settings
