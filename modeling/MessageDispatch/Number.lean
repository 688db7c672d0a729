import MessageDispatch.Number.Binary
import MessageDispatch.Number.Integer

/-!
# Numbers in templates

A template sees a number of one of three kinds: signed, unsigned, or floating. Every machine number
has exactly one `Number`, of the kind of its type.
-/

namespace MessageDispatch

/-- A numeric template argument. -/
inductive Number where
  | int (n : Int64)
  | uint (n : UInt64)
  | float (x : Binary64)
  deriving DecidableEq

namespace Number

/-- The number of a machine integer, signed when its type is. -/
def ofInteger {t : IntType} (n : t.Carrier) : Number :=
  if t.signed then .int (Int64.ofInt n.val) else .uint (UInt64.ofNat n.val.toNat)

/-- The number of a single-precision value, which is held at double precision. -/
def ofBinary32 (x : Binary32) : Number :=
  .float x.widen

/-- Equality of numbers: kinds never mix, and floating numbers compare by value. -/
def eqB : Number → Number → Bool
  | .int a, .int b => a == b
  | .uint a, .uint b => a == b
  | .float x, .float y => x.eqB y
  | _, _ => false

/-- The number is a floating pattern that stands for no number. -/
def isNaN : Number → Bool
  | .float x => x.isNaN
  | _ => false

theorem eqB_self (n : Number) : n.eqB n = !n.isNaN := by
  cases n <;> simp [eqB, isNaN, Binary64.eqB_self]

theorem eqB_comm (m n : Number) : m.eqB n = n.eqB m := by
  cases m <;> cases n <;> simp [eqB, Binary64.eqB_comm, BEq.comm]

theorem eqB_trans {a b c : Number} (hab : a.eqB b = true) (hbc : b.eqB c = true) :
    a.eqB c = true := by
  cases a <;> cases b <;> cases c <;> simp_all [eqB]
  exact Binary64.eqB_trans hab hbc

end Number

end MessageDispatch
