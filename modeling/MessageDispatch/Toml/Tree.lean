import MessageDispatch.Toml.Token

/-!
# Token trees

The tokens of a document are grouped by their brackets, and the outermost ones are cut into lines. A
line break inside brackets ends no line. Brackets nest to a limit.
-/

namespace MessageDispatch.Toml

/-- A token, or what stands between two matching brackets. -/
inductive Tree where
  | blank
  | newline
  | equals
  | comma
  | bare (run : List Char)
  | text (content : String) (multiline : Bool)
  | enclosed (b : Bracket) (parts : List Tree)

/-- How deep brackets nest. -/
def maxDepth : Nat :=
  80

/-- The parts read so far: those of the innermost open bracket, the last first, and for each open
bracket what came before it. -/
structure Nesting where
  around : List (Bracket × List Tree)
  parts : List Tree

namespace Nesting

/-- Adds a part. -/
def push (n : Nesting) (t : Tree) : Nesting :=
  { n with parts := t :: n.parts }

/-- Adds a token. A closing bracket has to match the innermost open one. -/
def step (n : Nesting) (t : Token) : Option Nesting :=
  match t with
  | .blank => some (n.push .blank)
  | .newline => some (n.push .newline)
  | .equals => some (n.push .equals)
  | .comma => some (n.push .comma)
  | .bare run => some (n.push (.bare run))
  | .text content multiline => some (n.push (.text content multiline))
  | .opening b =>
    if n.around.length < maxDepth then some ⟨(b, n.parts) :: n.around, []⟩ else none
  | .closing b =>
    match n.around with
    | [] => none
    | (c, before) :: around =>
      if b = c then some ⟨around, .enclosed b n.parts.reverse :: before⟩ else none

end Nesting

/-- The trees of a list of tokens. -/
def trees? (ts : List Token) : Option (List Tree) :=
  match ts.foldlM Nesting.step ⟨[], []⟩ with
  | some ⟨[], parts⟩ => some parts.reverse
  | _ => none

namespace Tree

/-- A line break. -/
def isNewline : Tree → Bool
  | .newline => true
  | _ => false

/-- White space or a comment. -/
def isBlank : Tree → Bool
  | .blank => true
  | _ => false

/-- An equals sign. -/
def isEquals : Tree → Bool
  | .equals => true
  | _ => false

end Tree

/-- The lines of a document. -/
def lines (ts : List Tree) : List (List Tree) :=
  ts.splitOnP Tree.isNewline

end MessageDispatch.Toml
