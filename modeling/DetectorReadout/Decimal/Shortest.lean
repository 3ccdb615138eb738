import DetectorReadout.Binary64

/-!
# The shortest text of a number

A binary64 number is written with the fewest decimal digits that read back to it, in positional notation whatever its
size. Every finite number has a finite decimal expansion, so the search runs over whole numbers: the number, its distance
to its neighbours and the candidates are all counted in units of the last place of that expansion.
-/

namespace DetectorReadout

namespace Decimal

/-- A positive binary64 number in whole units of some decimal place. -/
structure Expansion where
  /-- The number of units. -/
  units : Nat
  /-- The number of decimal places: a unit is `10 ^ -places`. -/
  places : Nat
  /-- The distance to the next larger number, in units. -/
  gap : Nat
  /-- Whether the next smaller number is only half as far away. -/
  narrowBelow : Bool
  /-- Whether the significand is even, so that numbers halfway to a neighbour are rounded to this one. -/
  ownsTies : Bool
deriving DecidableEq, Repr

namespace Expansion

/-- The expansion of `m * 2 ^ e`, for a significand `m` in canonical form. -/
def ofMagnitude (m : Nat) (e : Int) : Expansion where
  units := m * (if e < 0 then Nat.pow 5 (-e).toNat else Nat.pow 2 e.toNat)
  places := (-e).toNat
  gap := if e < 0 then Nat.pow 5 (-e).toNat else Nat.pow 2 e.toNat
  narrowBelow := m = 0x10000000000000 ∧ -1074 < e
  ownsTies := m % 2 = 0

/-- Whether a number of units is rounded to this number when it is read. -/
def readsBack (x : Expansion) (units : Nat) : Bool :=
  let lower := 4 * x.units - (if x.narrowBelow then x.gap else 2 * x.gap)
  let upper := 4 * x.units + 2 * x.gap
  if x.ownsTies then lower ≤ 4 * units ∧ 4 * units ≤ upper else lower < 4 * units ∧ 4 * units < upper

/-- The multiple of `step` that reads back and is nearest to the number, if there is one; of two that are equally near,
the larger. -/
def nearest? (x : Expansion) (step : Nat) : Option Nat :=
  let below := x.units / step * step
  let above := below + step
  if x.readsBack below ∧ (x.units - below < above - x.units ∨ ¬ x.readsBack above) then some below
  else if x.readsBack above then some above
  else none

/-- The number of units whose decimal has the fewest digits among those that read back. Seventeen digits are always
enough. -/
def shortest (x : Expansion) : Nat :=
  ((List.range 17).findSome? fun n => x.nearest? (Nat.pow 10 ((Nat.toDigits 10 x.units).length - 1 - n))).getD x.units

end Expansion

/-- The digits of a whole number of units with the decimal point in its place. Zeros behind the last digit that is not
zero are left out, and so is the point if nothing stands behind it. -/
def positional (units places : Nat) : String :=
  let fraction := (Nat.toDigits 10 (units % Nat.pow 10 places)).leftpad places '0'
  let kept := (fraction.reverse.dropWhile (· = '0')).reverse
  (units / Nat.pow 10 places).repr ++ if kept = [] then "" else "." ++ String.ofList kept

open Float.Model in
/-- The text of a number: the fewest digits that read back to it, without an exponent. -/
def text (x : Float) : String :=
  match x.toModel.unpack with
  | .notANumber => "NaN"
  | .infinity .positive => "inf"
  | .infinity .negative => "-inf"
  | .zero .positive => "0"
  | .zero .negative => "-0"
  | .finite sign m e _ =>
    let digits := positional (Expansion.ofMagnitude m e).shortest (-e).toNat
    match sign with
    | .positive => digits
    | .negative => "-" ++ digits

end Decimal

end DetectorReadout
