import DetectorReadout.Binary64

/-!
# Inverse hyperbolic tangent

The inverse hyperbolic tangent is half of `ln ((1 + x) / (1 - x))`. Near zero the quotient is close to one and would have
lost the digits of `x`, so the logarithm is taken of what the quotient exceeds one by, `2 * x / (1 - x)`. One plus that is
split into a power of two and a factor between `√½` and `√2`, and the logarithm of the factor is a series. Since rounding
acts differently on the two signs of `x`, the results for `x` and `-x` may differ by more than the sign.
-/

namespace DetectorReadout

namespace Binary64

open Float.Model

/-- The leading digits of `ln 2`, so few that small whole multiples of it are exact. -/
def ln2Leading : Float := 6.93147180369123816490e-01

/-- What the leading digits leave of `ln 2`. -/
def ln2Trailing : Float := 1.90821492927058770002e-10

/-- What `ln ((1 + s) / (1 - s)) / s` exceeds two by: the series `2 / 3 * s ^ 2 + 2 / 5 * s ^ 4 + ...`, cut off after seven
terms with coefficients that are fitted to quotients between `√½` and `√2`. -/
def logSeries (s : Float) : Float :=
  let z := s * s
  let z2 := z * z
  let z4 := z2 * z2
  let z6 := z4 * z2
  z * 6.666666666666735130e-01 + z2 * (3.999999999940941908e-01 + z * 2.857142874366239149e-01) +
    z4 * (2.222219843214978396e-01 + z * 1.818357216161805012e-01) +
    z6 * (1.531383769920937332e-01 + z * 1.479819860511658591e-01)

/-- The logarithm of `2 ^ k * (1 + f) * (1 + c)`, where `c` is so small that `ln (1 + c)` is `c` itself. -/
def logParts (k : Float) (f c : Float) : Float :=
  let half := 0.5 * f * f
  let s := f / (2.0 + f)
  k * ln2Leading - ((half - (s * (half + logSeries s) + (k * ln2Trailing + c))) - f)

/-- The positive number `m * 2 ^ e`, whose significand `m` has 53 binary digits, as `2 ^ k * (1 + f)` with `1 + f` between
about `√½` and `√2`. -/
def logSplit (m : Nat) (e : Int) : Float × Float :=
  let k := Float.ofInt (e + m.log2)
  let v := Float.ofNat m / 4503599627370496.0
  if v < 1.4142131805419922 then (k, v - 1.0) else (k + 1.0, v * 0.5 - 1.0)

/-- What the rounded sum `u` of one and `y` lacks of the sum, as a share of `u`. -/
def sumRest (u y : Float) : Float := (if u < 2.0 then y - (u - 1.0) else 1.0 - (u - y)) / u

/-- The logarithm of `1 + y`. For `y` below `2 ^ (-29)` in size two terms of its power series suffice. Outside the interval
from `√½ - 1` to `√2 - 1` the sum `1 + y` is formed, and what its rounding cut off is made up for. There is no logarithm of
a negative number, and that of zero is negative infinity. -/
def logOnePlus (y : Float) : Float :=
  if y.abs < 1.862645149230957e-09 then y - y * y * 0.5
  else if -0.2928934097290039 < y && y < 0.4142136573791504 then logParts 0.0 y 0.0
  else
    let u := 1.0 + y
    match u.toModel.unpack with
    | .finite .positive m e _ =>
      let (k, f) := logSplit m e
      logParts k f (sumRest u y)
    | .infinity .positive => infinity
    | .zero _ => -infinity
    | _ => notANumber

/-- The number whose hyperbolic tangent is `x`. It is infinite at one and minus one, and there is none beyond them. -/
def artanh (x : Float) : Float := 0.5 * logOnePlus (2.0 * x / (1.0 - x))

end Binary64

end DetectorReadout
