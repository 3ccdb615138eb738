import DetectorReadout.Binary64

/-!
# Scalars

Coordinates are elements of a `Scalar` type: one with the four operations, an order that can be tested, and the few
functions that the geometry needs. Only the operations are fixed, not their laws, so binary64 numbers are scalars and so
are the real numbers. What is said of every scalar type holds of both; what needs exact arithmetic is said of the reals.
-/

namespace DetectorReadout

/-- The operations on coordinates. Literals are read in the type itself, `0` and `1` by `Zero` and `One`, all others as
decimals. -/
class Scalar (α : Type) extends Zero α, One α, Add α, Sub α, Mul α, Div α, Neg α, LT α, LE α, OfScientific α where
  /-- Tests `<`. -/
  decLt : DecidableLT α
  /-- Tests `≤`. -/
  decLe : DecidableLE α
  /-- Tests the order by which values are sorted. It puts any two values in order, also those that `≤` takes for equal or does
  not compare. -/
  totalLe : α → α → Bool
  /-- The value without its sign. -/
  abs : α → α
  /-- Square root. -/
  sqrt : α → α
  /-- The scalar nearest to a natural number. -/
  ofNat : Nat → α
  /-- The whole part of a value that is not negative, and zero for every other value. -/
  toNat : α → Nat
  /-- What is left of the first value after taking away the second as often as it goes in. -/
  remainder : α → α → α
  /-- Tangent of an angle in radians. -/
  tan : α → α
  /-- Whether the value is a number and not infinite. -/
  isFinite : α → Bool

namespace Scalar

variable {α : Type} [Scalar α]

attribute [reducible, instance] decLt decLe

/-- The larger of two values; if one of them compares with nothing, the other. -/
def max (a b : α) : α := if a < b then b else if a ≤ a then a else b

/-- The smaller of two values; if one of them compares with nothing, the other. -/
def min (a b : α) : α := if b < a then b else if a ≤ a then a else b

/-- The remainder of a division, brought into the range from zero up to the size of the divisor. -/
def modulo (a n : α) : α :=
  if remainder a n < 0 then remainder a n + abs n else remainder a n

end Scalar

/-- Binary64 numbers. Whole parts from `2 ^ 64` on are cut off at `2 ^ 64 - 1`. -/
instance : Scalar Float where
  zero := 0
  one := 1
  decLt := Float.decLt
  decLe := Float.decLe
  totalLe := Binary64.totalLe
  abs := Float.abs
  sqrt := Float.sqrt
  ofNat := Float.ofNat
  toNat x := x.toUInt64.toNat
  remainder := Binary64.remainder
  tan := Float.tan
  isFinite := Float.isFinite

end DetectorReadout
