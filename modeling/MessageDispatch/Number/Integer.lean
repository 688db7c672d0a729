/-!
# Machine integer types

A machine integer is a number in the range of an `IntType`. Types are told apart by sign and width
and not by range, so `word` and `w64` stay two types.
-/

namespace MessageDispatch

-- Powers are those of the core library, whatever algebra is in scope.
attribute [local instance (high)] instPowNat

/-- How many bits an integer type has; a `word` has as many as an address. -/
inductive Width where
  | w8
  | w16
  | w32
  | w64
  | word
  deriving DecidableEq, Repr

/-- The number of bits of a width; addresses have 64. -/
def Width.bits : Width → Nat
  | .w8 => 8
  | .w16 => 16
  | .w32 => 32
  | .w64 => 64
  | .word => 64

/-- A machine integer type. -/
structure IntType where
  signed : Bool
  width : Width
  deriving DecidableEq, Repr

namespace IntType

/-- The least value of the type. -/
def least (t : IntType) : Int :=
  if t.signed then -(2 ^ (t.width.bits - 1)) else 0

/-- The first value beyond the type. -/
def bound (t : IntType) : Int :=
  if t.signed then 2 ^ (t.width.bits - 1) else 2 ^ t.width.bits

/-- The values of the type: from `least` up to, and without, `bound`. -/
def InRange (t : IntType) (n : Int) : Prop :=
  t.least ≤ n ∧ n < t.bound

instance (t : IntType) (n : Int) : Decidable (t.InRange n) :=
  inferInstanceAs (Decidable (_ ∧ _))

/-- The name used in messages: a letter for the sign and the width. -/
def name (t : IntType) : String :=
  (if t.signed then "i" else "u") ++
    match t.width with
    | .w8 => "8"
    | .w16 => "16"
    | .w32 => "32"
    | .w64 => "64"
    | .word => "size"

end IntType

/-- The integers of a type. -/
abbrev IntType.Carrier (t : IntType) : Type :=
  { n : Int // t.InRange n }

/-- The integer `n` of type `t`, if the type holds it. -/
def IntType.ofInt? (t : IntType) (n : Int) : Option t.Carrier :=
  if h : t.InRange n then some ⟨n, h⟩ else none

end MessageDispatch
