import MessageDispatch.Toml.Statement

/-!
# Reading documents

A document is read line by line: a header says where the values of the lines below it go. One fault
anywhere, and there is no document.
-/

namespace MessageDispatch.Toml

/-- A document read so far, and the names of the table that was opened last. -/
structure Reader where
  header : List String
  root : Entries

namespace Reader

/-- Carries out a statement. -/
def apply (r : Reader) (s : Statement) : Option Reader :=
  match s with
  | .header k => (r.root.openTable k).map fun root => ⟨k.names, root⟩
  | .element k => (r.root.openElement k).map fun root => ⟨k.names, root⟩
  | .definition k n => (r.root.defineAt r.header k n).map fun root => { r with root := root }

/-- Reads a line. -/
def line (r : Reader) (ts : List Tree) : Option Reader :=
  match ts.dropWhile Tree.isBlank with
  | [] => some r
  | t :: ts => (statement? (t :: ts)).bind r.apply

end Reader

/-- The document that a text spells. -/
def document? (text : String) : Option Document :=
  match (tokens? text).bind trees? with
  | none => none
  | some ts => ((lines ts).foldlM Reader.line ⟨[], []⟩).map fun r => Node.document r.root

end MessageDispatch.Toml
