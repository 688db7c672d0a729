/-!
# Binary floating point as bit patterns

Floating-point numbers are kept as their IEEE 754 bits. Only three things are done with them:
telling apart the patterns that are not numbers, comparing (`Binary64.eqB`, by which no such pattern
equals anything, itself included, and the two zeros are equal), and widening single to double
precision, which is exact.
-/

namespace MessageDispatch

-- Powers are those of the core library also where an algebra of powers is in scope; for the same
-- reason exponents that are numerals have their type written out.
attribute [local instance (high)] instPowNat

/-- A double-precision number: one sign bit, 11 of exponent, 52 of fraction. -/
structure Binary64 where
  bits : UInt64
  deriving DecidableEq, Repr

namespace Binary64

/-- The biased exponent. -/
def exponent (x : Binary64) : Nat :=
  x.bits.toNat / 2 ^ (52 : Nat) % 2 ^ (11 : Nat)

/-- The bits below the binary point. -/
def fraction (x : Binary64) : Nat :=
  x.bits.toNat % 2 ^ (52 : Nat)

/-- The sign bit. -/
def negative (x : Binary64) : Bool :=
  decide (2 ^ (63 : Nat) ≤ x.bits.toNat)

/-- The pattern stands for no number. -/
def isNaN (x : Binary64) : Bool :=
  x.exponent == 2047 && x.fraction != 0

/-- Zero of either sign. -/
def isZero (x : Binary64) : Bool :=
  x.bits.toNat % 2 ^ (63 : Nat) == 0

/-- Comparison by value. -/
def eqB (x y : Binary64) : Bool :=
  !x.isNaN && !y.isNaN && (x.bits == y.bits || (x.isZero && y.isZero))

theorem eqB_self (x : Binary64) : x.eqB x = !x.isNaN := by
  simp [eqB]

theorem eqB_comm (x y : Binary64) : x.eqB y = y.eqB x := by
  simp only [eqB]
  rw [Bool.and_comm (!x.isNaN), Bool.and_comm x.isZero, BEq.comm (a := x.bits)]

theorem eqB_trans {x y z : Binary64} (hxy : x.eqB y = true) (hyz : y.eqB z = true) :
    x.eqB z = true := by
  simp only [eqB, Bool.and_eq_true, Bool.or_eq_true, Bool.not_eq_true', beq_iff_eq] at *
  obtain ⟨⟨hx, _⟩, hxy⟩ := hxy
  obtain ⟨⟨_, hz⟩, hyz⟩ := hyz
  refine ⟨⟨hx, hz⟩, ?_⟩
  rcases hxy with hxy | ⟨zx, zy⟩ <;> rcases hyz with hyz | ⟨zy', zz⟩
  · exact .inl (hxy.trans hyz)
  · refine .inr ⟨?_, zz⟩
    simpa [isZero, hxy] using zy'
  · refine .inr ⟨zx, ?_⟩
    simpa [isZero, hyz] using zy
  · exact .inr ⟨zx, zz⟩

end Binary64

/-- A single-precision number: one sign bit, 8 of exponent, 23 of fraction. -/
structure Binary32 where
  bits : UInt32
  deriving DecidableEq, Repr

namespace Binary32

/-- The biased exponent. -/
def exponent (x : Binary32) : Nat :=
  x.bits.toNat / 2 ^ (23 : Nat) % 2 ^ (8 : Nat)

/-- The bits below the binary point. -/
def fraction (x : Binary32) : Nat :=
  x.bits.toNat % 2 ^ (23 : Nat)

/-- The magnitude bits of the equal double: exponents move by the difference of the biases, and a
number too small for single precision's own exponents gets a leading one of its own. -/
def widenedMagnitude (x : Binary32) : Nat :=
  let e := x.exponent
  let f := x.fraction
  if e = 255 then 2047 * 2 ^ (52 : Nat) + f * 2 ^ (29 : Nat)
  else if e = 0 then
    if f = 0 then 0
    else
      let top := f.log2
      (top + 874) * 2 ^ (52 : Nat) + (f - 2 ^ top) * 2 ^ (52 - top)
  else (e + 896) * 2 ^ (52 : Nat) + f * 2 ^ (29 : Nat)

/-- The double with the same value. -/
def widen (x : Binary32) : Binary64 :=
  ⟨UInt64.ofNat (x.bits.toNat / 2 ^ (31 : Nat) * 2 ^ (63 : Nat) + x.widenedMagnitude)⟩

end Binary32

end MessageDispatch
