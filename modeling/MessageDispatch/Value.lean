import MessageDispatch.Number
import MessageDispatch.Placeholder.Scope
import MessageDispatch.Ty

/-!
# Values and what templates see of them

The types of this module refer to one another: a text can hold a translatable node, whose inputs are
formatting inputs, which hold arguments, which hold texts or arbitrary values. A `Value` is anything
a caller may pass or a call may return, and has exactly one type, `Value.ty`.

Raw arguments and targets are told apart by the `Identity` they were built with, and not by what
they hold.
-/

namespace MessageDispatch

/-- What tells two objects apart: the number of the building step that made them, below the steps
that it is a part of. -/
structure Identity where
  steps : List Nat
  deriving DecidableEq, Repr

/-- The identity of the part number `i` of a building step. -/
def Identity.part (id : Identity) (i : Nat) : Identity :=
  ⟨i :: id.steps⟩

theorem Identity.part_injective {id : Identity} {i j : Nat} (h : id.part i = id.part j) :
    i = j := by
  simpa [Identity.part] using h

mutual

/-- A message text. -/
inductive Text where
  | literal (content : String)
  | translatable (node : Translatable)
  | composite (children : List Text)

/-- A key into the translations, with the inputs of its template. -/
structure Translatable where
  key : String
  inputs : List Input

/-- A template argument. -/
inductive Argument where
  | component (text : Text)
  | numeric (n : Number)
  | boolean (b : Bool)
  | raw (value : Value) (identity : Identity)

/-- A template tag: a text to insert, or template source. -/
inductive Tag where
  | inserting (text : Text)
  | preprocessed (template : String)

/-- Tags under names, in the order in which the names were first given. -/
structure TagBundle where
  tags : List (String × Tag)

/-- Whom a text is formatted for. -/
structure Target where
  value : Value
  identity : Identity

/-- One input of a template. -/
inductive Input where
  | positional (argument : Argument)
  | named (name : String) (argument : Argument)
  | tag (name : String) (tag : Tag)
  | bundle (tags : TagBundle)
  | target (target : Target)

/-- Anything that a caller passes or a call returns. A value of a host type is known by its type's
name and a text that stands for it; a dispatcher is known by its address. -/
inductive Value where
  | bool (b : Bool)
  | integer (t : IntType) (n : t.Carrier)
  | binary32 (x : Binary32)
  | binary64 (x : Binary64)
  | char (c : Char)
  | string (s : String)
  | stringLiteral (s : String)
  | number (n : Number)
  | text (t : Text)
  | translatable (n : Translatable)
  | argument (a : Argument)
  | tag (t : Tag)
  | tagBundle (b : TagBundle)
  | target (t : Target)
  | dispatcher (address : UInt64)
  | scope (s : Scope)
  | host (type content : String)

end

/-- The type of a value. -/
def Value.ty : Value → Ty
  | .bool _ => .bool
  | .integer t _ => .integer t
  | .binary32 _ => .binary32
  | .binary64 _ => .binary64
  | .char _ => .char
  | .string _ => .string
  | .stringLiteral _ => .stringLiteral
  | .number _ => .number
  | .text _ => .text
  | .translatable _ => .translatable
  | .argument _ => .argument
  | .tag _ => .tag
  | .tagBundle _ => .tagBundle
  | .target _ => .target
  | .dispatcher _ => .dispatcher
  | .scope _ => .scope
  | .host type _ => .host type

/-- What the values of a type hold. -/
def Ty.Carrier : Ty → Type
  | .bool => Bool
  | .integer t => t.Carrier
  | .binary32 => Binary32
  | .binary64 => Binary64
  | .char => Char
  | .string => String
  | .stringLiteral => String
  | .number => Number
  | .text => Text
  | .translatable => Translatable
  | .argument => Argument
  | .tag => Tag
  | .tagBundle => TagBundle
  | .target => Target
  | .dispatcher => UInt64
  | .scope => Scope
  | .host _ => String

namespace Value

/-- The value of type `t` that holds `c`. -/
def of : (t : Ty) → t.Carrier → Value
  | .bool => Value.bool
  | .integer t => Value.integer t
  | .binary32 => Value.binary32
  | .binary64 => Value.binary64
  | .char => Value.char
  | .string => Value.string
  | .stringLiteral => Value.stringLiteral
  | .number => Value.number
  | .text => Value.text
  | .translatable => Value.translatable
  | .argument => Value.argument
  | .tag => Value.tag
  | .tagBundle => Value.tagBundle
  | .target => Value.target
  | .dispatcher => Value.dispatcher
  | .scope => Value.scope
  | .host name => Value.host name

/-- What a value holds. -/
def content : (v : Value) → v.ty.Carrier
  | .bool b => b
  | .integer _ n => n
  | .binary32 x => x
  | .binary64 x => x
  | .char c => c
  | .string s => s
  | .stringLiteral s => s
  | .number n => n
  | .text t => t
  | .translatable n => n
  | .argument a => a
  | .tag t => t
  | .tagBundle b => b
  | .target t => t
  | .dispatcher address => address
  | .scope s => s
  | .host _ c => c

/-- What a value of type `t` holds; nothing for a value of another type. -/
def as? (v : Value) (t : Ty) : Option t.Carrier :=
  if h : v.ty = t then some (h ▸ v.content) else none

@[simp] theorem ty_of (t : Ty) (c : t.Carrier) : (of t c).ty = t := by
  cases t <;> rfl

@[simp] theorem of_content (v : Value) : of v.ty v.content = v := by
  cases v <;> rfl

@[simp] theorem as?_of (t : Ty) (c : t.Carrier) : (of t c).as? t = some c := by
  cases t <;> simp [as?, of, ty, content]

theorem as?_eq_some_iff {v : Value} {t : Ty} {c : t.Carrier} : v.as? t = some c ↔ v = of t c := by
  constructor
  · intro h
    by_cases ht : v.ty = t
    · subst ht
      simp only [as?, dite_true, Option.some.injEq] at h
      rw [← h, of_content]
    · simp [as?, ht] at h
  · rintro rfl
    exact as?_of t c

@[simp] theorem of_inj {t : Ty} {c d : t.Carrier} : of t c = of t d ↔ c = d := by
  rw [← as?_eq_some_iff, as?_of, Option.some.injEq]

theorem as?_eq_none_iff {v : Value} {t : Ty} : v.as? t = none ↔ v.ty ≠ t := by
  by_cases h : v.ty = t <;> simp [as?, h]

end Value

end MessageDispatch
