/-!
# Documents

What a TOML document holds: a table of named items. Numbers, Booleans and dates are one kind of
item, since no setting is one of them.
-/

namespace MessageDispatch.Toml

/-- A value in a document. -/
inductive Item where
  | string (s : String)
  | scalar
  | array (items : List Item)
  | table (entries : List (String × Item))

/-- A whole document. -/
abbrev Document : Type :=
  List (String × Item)

end MessageDispatch.Toml
