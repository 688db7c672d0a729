/-!
# Limits on paths

A path is a string of bytes. Its `segments` are what stands between separators; its `components` are
the steps that it denotes: a leading separator is the root, and empty segments and those that stay
where they are do not count, except at the start of a relative path. The limits are on the whole
path and on each component. `Path.file?` follows a path through the directories that exist.
-/

namespace MessageDispatch

/-- A path as its bytes. -/
abbrev Path : Type :=
  List UInt8

/-- The path that a text spells. -/
def Path.ofString (s : String) : Path :=
  s.toUTF8.toList

namespace Path

/-- The byte between segments. -/
def separator : UInt8 :=
  0x2F

/-- The segment that stays where it is. -/
def here : List UInt8 :=
  [0x2E]

/-- What stands between separators: one segment more than there are separators. -/
def segments (p : Path) : List (List UInt8) :=
  p.splitOn separator

/-- The steps of a path. -/
def components (p : Path) : List (List UInt8) :=
  match p.segments with
  | [] => []
  | first :: rest =>
    (if p.head? = some separator then [[separator]]
      else if first.isEmpty then [] else [first]) ++
      rest.filter fun s => !s.isEmpty && s != here

/-- The most bytes of a path. -/
def maxLength : Nat :=
  4096

/-- The most bytes of a component. -/
def maxComponent : Nat :=
  255

/-- The segment that leads to the directory above. -/
def above : List UInt8 :=
  [0x2E, 0x2E]

/-- The most bytes of a path by which a file can be opened. -/
def maxOpenable : Nat :=
  4095

/-- A directory, as the names on the way to it from the root. -/
abbrev Directory : Type :=
  List (List UInt8)

/-- The directory of an absolute path without steps upwards. -/
def directory (p : Path) : Directory :=
  p.segments.filter fun s => !s.isEmpty && s != here

/-- Follows a segment from a directory to another one that exists. The root is above itself. -/
def enter? (doesExist : Directory → Bool) (d : Directory) (s : List UInt8) :
    Option Directory :=
  if s.isEmpty || s == here then some d
  else if s == above then some d.dropLast
  else if doesExist (d ++ [s]) then some (d ++ [s])
  else none

/-- Where the file of a path is, or would be made: the directory and the name in it. Relative paths
start in `work`. A path that leads to a directory, or through what is no directory, has no file. -/
def file? (doesExist : Directory → Bool) (work : Directory) (p : Path) :
    Option (Directory × List UInt8) :=
  let name := p.segments.getLast?.getD []
  if maxOpenable < p.length || p.contains 0 || name.isEmpty || name == here || name == above ||
      maxComponent < name.length then
    none
  else
    match p.segments.dropLast.foldlM (enter? doesExist)
        (if p.head? = some separator then [] else work) with
    | none => none
    | some d => if doesExist (d ++ [name]) then none else some (d, name)

/-- Why a path is outside the limits. -/
inductive Fault where
  | empty
  | tooLong
  | componentTooLong
  deriving DecidableEq, Repr

/-- What is wrong with a path, in words. -/
def Fault.message : Fault → String
  | .empty => "must be non-empty"
  | .tooLong => "exceeds max length"
  | .componentTooLong => "component too long"

/-- Checks a path against the limits. -/
def check (p : Path) : Except Fault Unit :=
  if p.length = 0 then .error .empty
  else if maxLength < p.length then .error .tooLong
  else if p.components.any fun c => decide (maxComponent < c.length) then .error .componentTooLong
  else .ok ()

theorem segments_ne_nil (p : Path) : p.segments ≠ [] :=
  List.splitOnP_ne_nil _ _

end Path

end MessageDispatch
