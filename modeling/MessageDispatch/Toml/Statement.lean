import MessageDispatch.Toml.Node
import MessageDispatch.Toml.Scalar
import MessageDispatch.Toml.Tree

/-!
# Statements

Each line of a document is empty or one statement: a header, the header of one more table in an
array of tables, or a value for a key.
-/

namespace MessageDispatch.Toml

/-- What a line says. -/
inductive Statement where
  | header (k : Key)
  | element (k : Key)
  | definition (k : Key) (n : Node)

/-- A part of a key: a name, or a dot between names. -/
inductive KeyPart where
  | name (s : String)
  | dot

/-- A character that names may have without quotes. -/
def isBareNameChar (c : Char) : Bool :=
  c.isAlphanum || c == '_' || c == '-'

/-- What is left without the blanks at both ends. -/
def trimBlanks (cs : List Char) : List Char :=
  ((cs.dropWhile isBlankChar).reverse.dropWhile isBlankChar).reverse

/-- The parts of a run: names, and a dot for each point in it. -/
def runParts : List (List Char) → Option (List KeyPart)
  | [] => some []
  | segment :: rest =>
    let spelt := trimBlanks segment
    if spelt.all isBareNameChar then
      match runParts rest with
      | none => none
      | some parts =>
        let name := if spelt.isEmpty then [] else [KeyPart.name (String.ofList spelt)]
        some (name ++ (if rest.isEmpty then [] else [.dot]) ++ parts)
    else none

/-- The parts of a key that a tree makes up. -/
def keyParts : Tree → Option (List KeyPart)
  | .blank => some []
  | .bare run => runParts (run.splitOn '.')
  | .text s false => some [.name s]
  | _ => none

/-- The parts of a key that several trees make up. -/
def keyPartsList : List Tree → Option (List KeyPart)
  | [] => some []
  | t :: ts =>
    match keyParts t, keyPartsList ts with
    | some ps, some qs => some (ps ++ qs)
    | _, _ => none

/-- The names that parts spell, with a dot between each two. -/
def partNames : List KeyPart → Option (List String)
  | [.name s] => some [s]
  | .name s :: .dot :: rest => (partNames rest).map (s :: ·)
  | _ => none

/-- The key that parts spell, if it does not go through too many tables. -/
def keyOfParts (ps : List KeyPart) : Option Key :=
  match partNames ps with
  | none => none
  | some names =>
    match names.getLast? with
    | none => none
    | some name => if names.length ≤ maxDepth then some ⟨names.dropLast, name⟩ else none

/-- The key that trees spell. -/
def key? (ts : List Tree) : Option Key :=
  (keyPartsList ts).bind keyOfParts

/-- Where the reading of an inline table is: in a key, after a key, after an equals sign, or after
a value. -/
inductive Slot where
  | key (parts : List KeyPart)
  | named (k : Key)
  | value (k : Key)
  | filled

/-- What a line break does: it ends a key that was begun, and changes nothing else. -/
def Slot.breakLine : Slot → Option Slot
  | .key [] => some (.key [])
  | .key parts => (keyOfParts parts).map .named
  | slot => some slot

mutual

/-- The value that a tree spells. -/
def value? : Tree → Option Node
  | .bare run => if isScalar run then some .scalar else none
  | .text s _ => some (.string s)
  | .enclosed .square parts => (items? true parts).map .array
  | .enclosed .curly parts => (entries? (.key []) [] parts).map (.table .inline)
  | _ => none
termination_by structural t => t

/-- The values of an array; `wanted` says that a value may come next, and not a comma. -/
def items? (wanted : Bool) : List Tree → Option (List Node)
  | [] => some []
  | .blank :: ts => items? wanted ts
  | .newline :: ts => items? wanted ts
  | .comma :: ts => if wanted then none else items? true ts
  | t :: ts =>
    if wanted then
      match value? t, items? false ts with
      | some n, some ns => some (n :: ns)
      | _, _ => none
    else none
termination_by structural ts => ts

/-- The entries of an inline table, after those in `es`. No line breaks inside a key. -/
def entries? (slot : Slot) (es : Entries) : List Tree → Option Entries
  | [] =>
    match slot with
    | .key [] => some es
    | .filled => some es
    | _ => none
  | .blank :: ts => entries? slot es ts
  | .newline :: ts =>
    match slot.breakLine with
    | some slot => entries? slot es ts
    | none => none
  | .equals :: ts =>
    match slot with
    | .key parts =>
      match keyOfParts parts with
      | some k => entries? (.value k) es ts
      | none => none
    | .named k => entries? (.value k) es ts
    | _ => none
  | .comma :: ts =>
    match slot with
    | .filled => entries? (.key []) es ts
    | _ => none
  | t :: ts =>
    match slot with
    | .key parts =>
      match keyParts t with
      | some more => entries? (.key (parts ++ more)) es ts
      | none => none
    | .named _ => none
    | .value k =>
      match value? t with
      | none => none
      | some n =>
        match es.define k n .inline with
        | some es => entries? .filled es ts
        | none => none
    | .filled => none
termination_by structural ts => ts

end

/-- The value that the trees after an equals sign spell. -/
def lineValue? (ts : List Tree) : Option Node :=
  match ts.filter (!·.isBlank) with
  | [t] => value? t
  | _ => none

/-- The statement of a line that is not empty. -/
def statement? (ts : List Tree) : Option Statement :=
  match ts with
  | .enclosed .square parts :: rest =>
    if rest.all Tree.isBlank then
      match parts with
      | [.enclosed .square inner] => (key? inner).map .element
      | _ => (key? parts).map .header
    else none
  | _ =>
    match ts.span (!·.isEquals) with
    | (before, .equals :: after) =>
      match key? before, lineValue? after with
      | some k, some n => some (.definition k n)
      | _, _ => none
    | _ => none

end MessageDispatch.Toml
