import DetectorReadout.Json.Basic

/-!
# Numerals

A numeral is read character by character: `push` adds one, or refuses it if no numeral goes on that way, and `value?` is
the number once the numeral is complete. Whole numbers of at most 64 bits are exact. Of any other number the leading
digits that fit 64 bits are kept, and the power of ten is applied by one multiplication or division, so its value may be
off by a rounding.
-/

namespace DetectorReadout

/-- How far a numeral has been read, named for what was read last. -/
inductive NumeralPart where
  /-- Nothing but perhaps the sign. -/
  | sign
  /-- A leading zero, behind which no further digit may stand. -/
  | zero
  /-- A digit before the point. -/
  | whole
  /-- The point. -/
  | point
  /-- A digit behind the point. -/
  | fraction
  /-- The mark of the exponent. -/
  | mark
  /-- The sign of the exponent. -/
  | exponentSign
  /-- A digit of the exponent. -/
  | exponent
deriving DecidableEq, Repr

/-- A numeral, or the beginning of one. -/
structure Numeral where
  /-- What was read last. -/
  part : NumeralPart := .sign
  /-- Whether there is a minus sign. -/
  negative : Bool := false
  /-- The digits before the point, the last one first. -/
  wholeDigits : List Nat := []
  /-- The digits behind the point, the last one first. -/
  fractionDigits : List Nat := []
  /-- The size of the exponent. -/
  exponent : Nat := 0
  /-- Whether the exponent is negative. -/
  exponentNegative : Bool := false
  /-- Whether there is neither a point nor an exponent. -/
  plain : Bool := true
deriving DecidableEq, Repr

namespace Numeral

/-- The value of a decimal digit. -/
def digit? (c : Char) : Option Nat := if c.isDigit then some (c.toNat - '0'.toNat) else none

/-- The numeral with one digit more. -/
def pushDigit (n : Numeral) (d : Nat) : Option Numeral :=
  match n.part with
  | .sign => some { n with part := if d = 0 then .zero else .whole, wholeDigits := [d] }
  | .zero => none
  | .whole => some { n with wholeDigits := d :: n.wholeDigits }
  | .point | .fraction => some { n with part := .fraction, fractionDigits := d :: n.fractionDigits }
  | .mark | .exponentSign | .exponent => some { n with part := .exponent, exponent := n.exponent * 10 + d }

/-- The numeral with one character more, if that is the beginning of a numeral. -/
def push (n : Numeral) (c : Char) : Option Numeral :=
  match digit? c with
  | some d => n.pushDigit d
  | none =>
    match c, n.part with
    | '.', .zero | '.', .whole => some { n with part := .point, plain := false }
    | 'e', .zero | 'e', .whole | 'e', .fraction | 'E', .zero | 'E', .whole | 'E', .fraction =>
      some { n with part := .mark, plain := false }
    | '+', .mark => some { n with part := .exponentSign }
    | '-', .mark => some { n with part := .exponentSign, exponentNegative := true }
    | _, _ => none

/-- The beginning of a numeral. -/
def start? (c : Char) : Option Numeral :=
  if c = '-' then some { negative := true } else push {} c

/-- Whether the numeral may end here. -/
def complete (n : Numeral) : Bool :=
  n.part = .zero ∨ n.part = .whole ∨ n.part = .fraction ∨ n.part = .exponent

/-- A number of 64 bits continued by digits as long as it fits, and how many digits were left over. -/
def appendDigits (s : Nat) : List Nat → Nat × Nat
  | [] => (s, 0)
  | d :: ds => if s * 10 + d < 0x10000000000000000 then appendDigits (s * 10 + d) ds else (s, ds.length + 1)

/-- A power of ten. -/
def powerOfTen (n : Nat) : Float := .ofScientific 1 false n

/-- The value divided by a power of ten. Powers beyond the range of binary64 are taken in steps. -/
def divide (x : Float) (n : Nat) : Float :=
  if n ≤ 308 then x / powerOfTen n
  else if x == 0 then x
  else divide (x / powerOfTen 308) (n - 308)
termination_by n

/-- A number of 64 bits times a power of ten, if binary64 reaches that far. -/
def scale (s : Nat) (n : Int) : Option Float :=
  if s = 0 then some 0
  else if n < 0 then some (divide (.ofNat s) (-n).toNat)
  else if n ≤ 308 ∧ (Float.ofNat s * powerOfTen n.toNat).isFinite then some (.ofNat s * powerOfTen n.toNat)
  else none

/-- The number that a complete numeral stands for. The negative zero is not a whole number. -/
def value (n : Numeral) : JsonNumber :=
  let (s, cut) := appendDigits 0 n.wholeDigits.reverse
  if n.plain ∧ cut = 0 ∧ (n.negative → 0 < s ∧ s ≤ 0x8000000000000000) then
    .integer (if n.negative then -s else s)
  else
    let (s, left) := appendDigits s n.fractionDigits.reverse
    let exponent : Int := if n.exponentNegative then -n.exponent else n.exponent
    match scale s (exponent + cut - (n.fractionDigits.length - left : Nat)) with
    | some x => .float (if n.negative then -x else x)
    | none => .outOfRange

/-- The number, provided that the numeral may end here. -/
def value? (n : Numeral) : Option JsonNumber := if n.complete then some n.value else none

end Numeral

end DetectorReadout
