import MessageDispatch.Number.Shortest
import MessageDispatch.Text.Quoted
import MessageDispatch.Value

/-!
# Values in diagnostics

How texts, arguments and inputs are shown to a developer: by the names of their alternatives, with
texts quoted. Of raw arguments and targets, the name of the type is shown. Floating numbers are
written with the fewest digits that identify them and at least one place, positionally from a
ten-thousandth to below ten to the sixteenth.
-/

namespace MessageDispatch

namespace Binary64

/-- The digits of a positive integer without the zeros at its end, and how many zeros there were. -/
def withoutZeros (n : Nat) : List Char × Nat :=
  let reversed := (Nat.toDigits 10 n).reverse
  ((reversed.dropWhile (· == '0')).reverse, (reversed.takeWhile (· == '0')).length)

/-- The magnitude whose digits are `ds` when the last digit counts for `10 ^ exponent`. -/
def layOut (ds : List Char) (exponent : Int) : List Char :=
  let leading := exponent + ds.length - 1
  if -4 ≤ leading ∧ leading < 16 then
    if 0 ≤ exponent then ds ++ List.replicate exponent.toNat '0' ++ ['.', '0']
    else if 0 ≤ leading then
      ds.take (leading.toNat + 1) ++ ['.'] ++ ds.drop (leading.toNat + 1)
    else ['0', '.'] ++ List.replicate (-leading - 1).toNat '0' ++ ds
  else
    ds.take 1 ++ (if ds.length = 1 then [] else '.' :: ds.drop 1) ++ ['e'] ++
      (toString leading).toList

/-- A floating number in diagnostics. -/
def describe (x : Binary64) : String :=
  if x.isNaN then "NaN"
  else
    let magnitude :=
      if x.exponent = 2047 then "inf"
      else if x.isZero then "0.0"
      else
        let d := x.shortest
        let (ds, zeros) := withoutZeros d.digits
        String.ofList (layOut ds (d.exponent + zeros))
    if x.negative then "-" ++ magnitude else magnitude

end Binary64

/-- A number in diagnostics. -/
def Number.describe : Number → String
  | .int n => s!"Int({n.toInt})"
  | .uint n => s!"UInt({n.toNat})"
  | .float x => s!"Float({x.describe})"

/-- A target in diagnostics: the name of the type of what it holds. -/
def Target.describe : Target → String
  | ⟨v, _⟩ => s!"FormatTarget({quoted v.ty.name})"

mutual

/-- A text in diagnostics. -/
def Text.describe : Text → String
  | .literal content => s!"Text({quoted content})"
  | .translatable node => s!"Translatable({node.describe})"
  | .composite children => s!"Composite([{Text.describeList children}])"
termination_by structural t => t

/-- The items of a list of texts in diagnostics. -/
def Text.describeList : List Text → String
  | [] => ""
  | t :: ts => t.describe ++ (if ts.isEmpty then "" else ", ") ++ Text.describeList ts
termination_by structural ts => ts

/-- A translatable node in diagnostics. -/
def Translatable.describe : Translatable → String
  | ⟨key, inputs⟩ =>
    s!"TranslatableNode \x7b key: {quoted key}, arguments: [{Input.describeList inputs}] \x7d"
termination_by structural n => n

/-- The items of a list of inputs in diagnostics. -/
def Input.describeList : List Input → String
  | [] => ""
  | i :: is => i.describe ++ (if is.isEmpty then "" else ", ") ++ Input.describeList is
termination_by structural is => is

/-- An input in diagnostics. -/
def Input.describe : Input → String
  | .positional argument => s!"Positional({argument.describe})"
  | .named name argument => s!"Named \x7b name: {quoted name}, value: {argument.describe} \x7d"
  | .tag name tag => s!"Tag \x7b name: {quoted name}, tag: {tag.describe} \x7d"
  | .bundle tags => s!"Resolver({tags.describe})"
  | .target target => s!"Target({target.describe})"
termination_by structural i => i

/-- An argument in diagnostics. -/
def Argument.describe : Argument → String
  | .component text => s!"Component({text.describe})"
  | .numeric n => s!"Numeric({n.describe})"
  | .boolean b => s!"Boolean({b})"
  | .raw value _ => s!"Raw(RawValue({quoted value.ty.name}))"
termination_by structural a => a

/-- A tag in diagnostics. -/
def Tag.describe : Tag → String
  | .inserting text => s!"Inserting({text.describe})"
  | .preprocessed template => s!"Preprocessed({quoted template})"
termination_by structural t => t

/-- A bundle of tags in diagnostics. -/
def TagBundle.describe : TagBundle → String
  | ⟨tags⟩ => s!"TagResolver \x7b tags: [{TagBundle.describeList tags}] \x7d"
termination_by structural b => b

/-- The items of a list of named tags in diagnostics. -/
def TagBundle.describeList : List (String × Tag) → String
  | [] => ""
  | (name, tag) :: rest =>
    s!"({quoted name}, {tag.describe})" ++ (if rest.isEmpty then "" else ", ") ++
      TagBundle.describeList rest
termination_by structural ts => ts

end

end MessageDispatch
