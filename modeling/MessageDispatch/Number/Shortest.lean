import MessageDispatch.Number.Binary

/-!
# Shortest decimals

The decimals that read back as a double are those in the interval from half way to the double below
to half way to the double above, with its ends when the significand is even. Among the powers of
ten, the greatest one of which a multiple lies in the interval gives the decimal with the fewest
digits; of two such multiples the nearer one is taken, and the greater one of two that are equally
near.
-/

namespace MessageDispatch

-- Powers are those of the core library, whatever algebra is in scope.
attribute [local instance (high)] instPowNat

/-- The number `digits * 10 ^ exponent`. -/
structure Decimal where
  digits : Nat
  exponent : Int
  deriving DecidableEq, Repr

namespace Binary64

/-- The significand, as an integer. -/
def significand (x : Binary64) : Nat :=
  if x.exponent = 0 then x.fraction else 2 ^ (52 : Nat) + x.fraction

/-- The power of two that the significand is multiplied by. -/
def scale (x : Binary64) : Int :=
  (max x.exponent 1 : Nat) - 1075

/-- Four times the distance to the double below is twice the scale, except above a power of two. -/
def below (x : Binary64) : Nat :=
  if x.fraction = 0 ∧ 1 < x.exponent then 1 else 2

/-- The order of `a * 10 ^ i` and `b * 2 ^ j`. -/
def compareScaled (a : Nat) (i : Int) (b : Nat) (j : Int) : Ordering :=
  compare (a * 10 ^ i.toNat * 2 ^ (-j).toNat) (b * 2 ^ j.toNat * 10 ^ (-i).toNat)

/-- The decimal reads back as the magnitude of `x`. -/
def readsBack (x : Binary64) (d : Decimal) : Bool :=
  let low := compareScaled d.digits d.exponent (4 * x.significand - x.below) (x.scale - 2)
  let high := compareScaled d.digits d.exponent (4 * x.significand + 2) (x.scale - 2)
  let closed := x.significand % 2 == 0
  (low == .gt || (closed && low == .eq)) && (high == .lt || (closed && high == .eq))

/-- The multiple of `10 ^ i` that reads back and is nearest to the magnitude of `x`, if any does. -/
def multiple? (x : Binary64) (i : Int) : Option Decimal :=
  let num := x.significand * 2 ^ x.scale.toNat * 10 ^ (-i).toNat
  let den := 2 ^ (-x.scale).toNat * 10 ^ i.toNat
  let least : Decimal := ⟨num / den, i⟩
  let next : Decimal := ⟨num / den + 1, i⟩
  match x.readsBack least, x.readsBack next with
  | true, true => some (if 2 * (num % den) < den then least else next)
  | true, false => some least
  | false, true => some next
  | false, false => none

/-- The exponents of the powers of ten, greatest first. The least of them divides every double. -/
def decimalExponents : List Int :=
  (List.range 1384).map fun (i : Nat) => 309 - (i : Int)

/-- The shortest decimal of the magnitude of a finite double that is not zero. -/
def shortest (x : Binary64) : Decimal :=
  (decimalExponents.findSome? x.multiple?).getD ⟨0, 0⟩

end Binary64

end MessageDispatch
