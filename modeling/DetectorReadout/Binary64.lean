/-!
# Binary64 numbers

The numbers that are not finite, the order of all numbers by their bits, the angle of a direction, and the remainder of a
division. A remainder is always exact: it is computed on the whole-number significands of the operands, so nothing can over- or
underflow on the way.
-/

namespace DetectorReadout

namespace Binary64

open Float.Model

/-- The number that stands for no value. -/
def notANumber : Float := .ofModel (.pack .notANumber)

/-- Positive infinity. -/
def infinity : Float := .ofModel (.pack (.infinity .positive))

/-- The bits of a number as a word that ascends with the number. The sign bit is flipped, and if it was set all other bits are
flipped too, as negative numbers descend when their bits ascend. -/
def sortKey (x : Float) : UInt64 :=
  if x.toBits < 0x8000000000000000 then x.toBits ^^^ 0x8000000000000000 else ~~~x.toBits

/-- Tests the order of all numbers: the negative zero comes before the positive one, and the value that stands for no number
comes last. -/
def totalLe (x y : Float) : Bool := sortKey x ≤ sortKey y

/-- The angle of the direction with the given components, the second one first. On the positive first axis it is zero with the sign
of the second component, and nowhere else is it a binary64 number. -/
def angle (y x : Float) : Float := if y == 0 && 0 < x then y else Float.atan2 y x

/-- The significand and the exponent of a magnitude `m * 2 ^ e`. A value that is not finite has none and is read as
zero. -/
def magnitude : UnpackedFloat → Nat × Int
  | .finite _ m e _ => (m, e)
  | _ => (0, 0)

/-- Two magnitudes as whole multiples of one power of two. -/
def aligned (x y : UnpackedFloat) : Nat × Nat × Int :=
  let (m, e) := magnitude x
  let (n, f) := magnitude y
  (m <<< (e - min e f).toNat, n <<< (f - min e f).toNat, min e f)

/-- What is left of `x` after taking away `y` as often as it goes in, with the sign of `x`. -/
def remainder (x y : Float) : Float :=
  match x.toModel.unpack, y.toModel.unpack with
  | .finite s m e h, .finite t n f k =>
    let (a, b, unit) := aligned (.finite s m e h) (.finite t n f k)
    .ofModel (.pack (.normalize .binary64 (s.apply ↑(a % b)) unit s))
  | .finite .., .infinity _ => x
  | .zero _, .finite .. => x
  | .zero _, .infinity _ => x
  | _, _ => notANumber

end Binary64

end DetectorReadout
