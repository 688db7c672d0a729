import MessageDispatch.Text.LowerCase

/-!
# Names from identifiers

An identifier becomes a template name by writing an underscore at each joint, where an ASCII
lower-case letter meets an ASCII upper-case letter, and putting every character in lower case. The
lower-case forms are a parameter of the rule.
-/

namespace MessageDispatch

/-- The rule, for the rest of an identifier; `low` says that the character before it is an ASCII
lower-case letter. -/
def snakeCaseFrom (lower : Char → List Char) : Bool → List Char → List Char
  | _, [] => []
  | low, c :: cs =>
    (if low && c.isUpper then ['_'] else []) ++ lower c ++ snakeCaseFrom lower c.isLower cs

/-- The rule with given lower-case forms. -/
def snakeCaseWith (lower : Char → List Char) (cs : List Char) : List Char :=
  snakeCaseFrom lower false cs

/-- The snake-case form of an identifier. -/
def snakeCase (identifier : String) : String :=
  String.ofList (snakeCaseWith lowerCase identifier.toList)

/-- No character vanishes, if each has a lower-case form. -/
theorem snakeCaseWith_eq_nil_iff {lower : Char → List Char} (h : ∀ c, lower c ≠ [])
    {cs : List Char} : snakeCaseWith lower cs = [] ↔ cs = [] := by
  cases cs with
  | nil => simp [snakeCaseWith, snakeCaseFrom]
  | cons c cs => simp [snakeCaseWith, snakeCaseFrom, h]

theorem snakeCase_eq_empty_iff {identifier : String} :
    snakeCase identifier = "" ↔ identifier = "" := by
  rw [snakeCase, String.ofList_eq_empty_iff, snakeCaseWith_eq_nil_iff lowerCase_ne_nil,
    String.toList_eq_nil_iff]

end MessageDispatch
