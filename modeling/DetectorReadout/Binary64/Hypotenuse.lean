import DetectorReadout.Binary64

/-!
# The hypotenuse of a right triangle

The root of the sum of two squares is off by the rounding errors of squares, sum and root. One Newton step takes most of
the error out: `h` becomes `h - (h ^ 2 - x ^ 2 - y ^ 2) / (2 * h)`. Legs whose squares could over- or underflow are scaled
by a power of two beforehand, which changes no digit. A leg that is too short to show in the root is only added.
-/

namespace DetectorReadout

namespace Binary64

/-- By how much the square of `h` exceeds the sum of the squares of the legs `long` and `short`, where `h` is close to
the hypotenuse. The squares themselves are not formed, since their difference would not outlast the rounding: it is
written with the difference between `h` and one of the legs. -/
def squareExcess (h long short : Float) : Float :=
  if h ≤ 2.0 * short then
    let d := h - short
    long * (2.0 * d - long) + (d - 2.0 * (long - short)) * d
  else
    let d := h - long
    2.0 * d * (long - 2.0 * short) + ((4.0 * d - short) * short + d * d)

/-- The hypotenuse over the legs `long` and `short`, whose squares neither over- nor underflow. -/
def scaledHypotenuse (long short : Float) : Float :=
  let h := (long * long + short * short).sqrt
  h - squareExcess h long short / (2.0 * h)

/-- The power of two by which legs are scaled: `2 ^ (-600)` if the longer one exceeds `2 ^ 511`, `2 ^ 600` if the shorter
one is below `2 ^ (-459)`, and one between these bounds. -/
def legScale (long short : Float) : Float :=
  if 6.703903964971299e153 < long then 2.409919865102884e-181
  else if short < 6.717876107567089e-139 then 4.149515568880993e180
  else 1.0

/-- The length of the hypotenuse of a right triangle with the legs `x` and `y`. A leg of less than `2 ^ (-54)` times the
other does not show in the root. An infinite leg makes the hypotenuse infinite, even if the other leg is not a number. A
length has no sign. -/
def hypotenuse (x y : Float) : Float :=
  if x.isInf || y.isInf then infinity
  else
    let (long, short) := if x.abs < y.abs then (y.abs, x.abs) else (x.abs, y.abs)
    let scale := legScale long short
    if short * 18014398509481984.0 ≤ long then long + short
    else (scaledHypotenuse (long * scale) (short * scale) / scale).abs

end Binary64

end DetectorReadout
