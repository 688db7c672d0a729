import MessageDispatch.Settings
import MessageDispatch.Toml.Item

/-!
# Settings in documents

A group of settings is a table of some of its fields by name, or an array of the first of its fields
in order, with anything after the last one left aside. A choice is its name, or a table with that
one name and nothing in it. What is not written has its default; a name that is not declared is an
error.
-/

namespace MessageDispatch.Settings

open Toml

/-- The items that are written for the fields of a group. -/
def fields? (names : List String) : Item → Option (String → Option Item)
  | .table entries =>
    if entries.all fun e => names.contains e.1 then some fun name => entries.lookup name else none
  | .array items => some fun name => (names.zip items).lookup name
  | _ => none

/-- What is written for a setting, or else its default. -/
def setting? {α : Type} (decode : Item → Option α) (default : α) (written : Option Item) :
    Option α :=
  match written with
  | none => some default
  | some i => decode i

/-- A choice among named alternatives. -/
def choice? {α : Type} (alternatives : List (String × α)) : Item → Option α
  | .string s => alternatives.lookup s
  | .table [(s, .table [])] => alternatives.lookup s
  | .table [(s, .array [])] => alternatives.lookup s
  | _ => none

/-- How a choice is spelt. -/
def spelling? {α : Type} [BEq α] (alternatives : List (String × α)) (a : α) : Option String :=
  (alternatives.find? (·.2 == a)).map (·.1)

/-- A text. -/
def text? : Item → Option String
  | .string s => some s
  | _ => none

/-- The names of the styles. -/
def styles : List (String × FormatStyle) :=
  [("named", .named), ("positional", .positional)]

/-- The names of the name styles. -/
def nameStyles : List (String × NameStyle) :=
  [("declared", .declared), ("declared_or_identifier", .declaredOrIdentifier)]

/-- The names of the result modes. -/
def modes : List (String × ResultMode) :=
  [("no_operation", .noOperation), ("standard", .standard)]

/-- The names of the kinds of sinks. -/
def sinks : List (String × SinkKind) :=
  [("none", .none), ("stderr", .stderr), ("file", .file)]

/-- The settings on arguments. -/
def arguments? (i : Item) : Option ArgumentSettings :=
  match fields? ["style", "names"] i with
  | none => none
  | some written =>
    match setting? (choice? styles) .named (written "style"),
      setting? (fun i => (choice? nameStyles i).map some) none (written "names") with
    | some style, some names => some ⟨style, names⟩
    | _, _ => none

/-- The settings on results. -/
def result? (i : Item) : Option ResultSettings :=
  match fields? ["mode"] i with
  | none => none
  | some written => (setting? (choice? modes) .noOperation (written "mode")).map fun mode => ⟨mode⟩

/-- The settings on binding events. -/
def audit? (i : Item) : Option AuditSettings :=
  match fields? ["sink", "path"] i with
  | none => none
  | some written =>
    match setting? (choice? sinks) .none (written "sink"),
      setting? (fun i => (text? i).map some) none (written "path") with
    | some sink, some path => some ⟨sink, path⟩
    | _, _ => none

/-- The settings of a document. -/
def decode? (d : Document) : Option Settings :=
  match fields? ["arguments", "result", "audit"] (.table d) with
  | none => none
  | some written =>
    match setting? arguments? {} (written "arguments"), setting? result? {} (written "result"),
      setting? audit? {} (written "audit") with
    | some arguments, some result, some audit => some ⟨arguments, result, audit⟩
    | _, _, _ => none

end MessageDispatch.Settings
