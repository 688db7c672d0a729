import MessageDispatch.Toml.Item

/-!
# Documents under construction

While a document is read, each table knows how it came to be, because that decides what may still be
added to it. A table made by its own header takes no dotted keys from elsewhere; one that is only
implied by a longer header may get its own header once; one made by a dotted key grows by dotted
keys alone; an inline table is closed. A name is given once in a table.
-/

namespace MessageDispatch.Toml

/-- How a table came to be. -/
inductive Origin where
  | header
  | implied
  | dotted
  | inline
  deriving DecidableEq, Repr

/-- A value of a document under construction. An array of tables keeps its last table apart. -/
inductive Node where
  | string (s : String)
  | scalar
  | array (items : List Node)
  | tables (last : List (String × Node)) (before : List (List (String × Node)))
  | table (origin : Origin) (entries : List (String × Node))

/-- The names of a table and what they have been given, in order. -/
abbrev Entries : Type :=
  List (String × Node)

/-- A key: the names of the tables to go through, and the last name. -/
structure Key where
  path : List String
  name : String
  deriving DecidableEq, Repr

/-- All names of a key. -/
def Key.names (k : Key) : List String :=
  k.path ++ [k.name]

namespace Entries

/-- Gives another value to a name. -/
def replace (name : String) (n : Node) (es : Entries) : Entries :=
  es.map fun e => if e.1 = name then (name, n) else e

/-- Changes the table at the end of a path. Tables that are missing on the way are made: dotted ones
for the path of a dotted key, implied ones for that of a header. The path goes through the last
table of an array of tables, and through no inline table; that of a dotted key goes through no table
with a header. -/
def alter (dotted : Bool) (change : Origin → Entries → Option Entries) :
    List String → Origin → Entries → Option Entries
  | [], origin, es => change origin es
  | name :: path, _, es =>
    match es.lookup name with
    | none =>
      let made := if dotted then Origin.dotted else .implied
      (alter dotted change path made []).map fun inner => es ++ [(name, .table made inner)]
    | some (.table origin inner) =>
      if origin = .inline ∨ (dotted = true ∧ origin = .header) then none
      else
        (alter dotted change path origin inner).map fun inner =>
          replace name (.table origin inner) es
    | some (.tables last before) =>
      (alter dotted change path .header last).map fun last => replace name (.tables last before) es
    | some _ => none

/-- Gives a value to a key in a table. The tables on the way, if any, have to be dotted ones at the
end. -/
def define (k : Key) (n : Node) (origin : Origin) (es : Entries) : Option Entries :=
  alter true
    (fun origin es =>
      if (origin == .dotted) == !k.path.isEmpty && (es.lookup k.name).isNone then
        some (es ++ [(k.name, n)])
      else none)
    k.path origin es

/-- Opens the table of a header in the document. -/
def openTable (k : Key) (es : Entries) : Option Entries :=
  alter false
    (fun _ es =>
      match es.lookup k.name with
      | none => some (es ++ [(k.name, .table .header [])])
      | some (.table .implied inner) => some (replace k.name (.table .header inner) es)
      | some _ => none)
    k.path .header es

/-- Opens one more table of an array of tables in the document. -/
def openElement (k : Key) (es : Entries) : Option Entries :=
  alter false
    (fun _ es =>
      match es.lookup k.name with
      | none => some (es ++ [(k.name, .tables [] [])])
      | some (.tables last before) => some (replace k.name (.tables [] (last :: before)) es)
      | some _ => none)
    k.path .header es

/-- Gives a value to a key in the table that was opened last. -/
def defineAt (header : List String) (k : Key) (n : Node) (es : Entries) : Option Entries :=
  alter false (define k n) header .header es

end Entries

namespace Node

mutual

/-- What a finished node is. -/
def item : Node → Item
  | .string s => .string s
  | .scalar => .scalar
  | .array items => .array (itemList items)
  | .tables last before => .array (tableList before [.table (document last)])
  | .table _ entries => .table (document entries)
termination_by structural n => n

/-- What finished nodes are. -/
def itemList : List Node → List Item
  | [] => []
  | n :: ns => item n :: itemList ns
termination_by structural ns => ns

/-- The tables of an array, the last of which comes first, before others. -/
def tableList : List (List (String × Node)) → List Item → List Item
  | [], after => after
  | entries :: rest, after => tableList rest (.table (document entries) :: after)
termination_by structural ts => ts

/-- What finished entries are. -/
def document : List (String × Node) → Document
  | [] => []
  | (name, n) :: rest => (name, item n) :: document rest
termination_by structural es => es

end

end Node

end MessageDispatch.Toml
