/-!
# JSON values

The data model of descriptions and options. Two things that a text can spell have no value of their own here: a number
too large for binary64, and a string with a lone surrogate. Both are allowed in parts of a text that nobody reads, so they
are kept as what they are, and refused only when they are read.
-/

namespace DetectorReadout

/-- The value of a numeral. -/
inductive JsonNumber where
  /-- A whole number that fits 64 bits, with or without a sign, written without fraction and exponent. -/
  | integer (value : Int)
  /-- Any other number. -/
  | float (value : Float)
  /-- A number beyond the range of binary64. -/
  | outOfRange
deriving DecidableEq, Repr, Inhabited

/-- A JSON value. A string that is not a text (it has a lone surrogate) is `none`; the fields of an object keep the order
in which they are written. -/
inductive Json where
  /-- The empty value. -/
  | null
  /-- A truth value. -/
  | bool (value : Bool)
  /-- A number. -/
  | number (value : JsonNumber)
  /-- A string. -/
  | text (value : Option String)
  /-- A list of values. -/
  | array (items : List Json)
  /-- Named values. -/
  | object (fields : List (Option String × Json))
deriving Repr, Inhabited

namespace Json

/-- A whole number. -/
def ofInt (n : Int) : Json := .number (.integer n)

/-- A binary64 number. -/
def ofFloat (x : Float) : Json := .number (.float x)

/-- A 64-bit word, as a whole number. -/
def ofWord (w : UInt64) : Json := .ofInt w.toNat

/-- A text. -/
def ofString (s : String) : Json := .text (some s)

/-- An object with the given fields. -/
def record (fields : List (String × Json)) : Json := .object (fields.map fun (k, v) => (some k, v))

end Json

end DetectorReadout
