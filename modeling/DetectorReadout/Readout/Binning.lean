import DetectorReadout.GeometryError
import DetectorReadout.Vector

/-!
# Binnings

A binning cuts a range of one local coordinate into bins by their edges. Each bin holds its lower edge and not its upper
one. Every value has a bin: a value outside the range goes to the first or the last bin, or is first brought back into the
range as if it were a circle, and a value that compares with nothing goes to bin zero.
-/

namespace DetectorReadout

/-- The coordinate of a local position. -/
def Axis.of {α : Type} (a : Axis) (p : Vec2 α) : α :=
  match a with
  | .x => p.x
  | .y => p.y

/-- What is done with values outside the range of a binning. -/
inductive Overflow where
  /-- They go to the first or the last bin. -/
  | clamp
  /-- The range is a circle. -/
  | wrap
deriving DecidableEq, Repr

/-- The name of the choice. -/
def Overflow.name : Overflow → String
  | .clamp => "Open"
  | .wrap => "Closed"

/-- A binning of one local coordinate. -/
structure Binning (α : Type) where
  /-- The coordinate. -/
  axis : Axis
  /-- What is done with values outside the range. -/
  overflow : Overflow := .clamp
  /-- The edges of the bins, in ascending order. -/
  edges : Array α
  /-- Whether the bins are meant to be of equal width, so that a bin is found by a division. -/
  uniform : Bool
  /-- There is at least one bin. -/
  two_le_size : 2 ≤ edges.size

namespace Binning

variable {α : Type}

/-- The number of bins. -/
def bins (b : Binning α) : Nat := b.edges.size - 1

/-- The lower end of the range. -/
def lower (b : Binning α) : α :=
  have : 0 < b.edges.size := Nat.lt_of_lt_of_le (by decide) b.two_le_size
  b.edges[0]

/-- The upper end of the range. -/
def upper (b : Binning α) : α :=
  have : b.bins < b.edges.size := Nat.sub_lt (Nat.lt_of_lt_of_le (by decide) b.two_le_size) (by decide)
  b.edges[b.bins]

/-- The edges below and above bin `i`, or those of the last bin if there is no bin `i`. -/
def edgesOf (b : Binning α) (i : Nat) : α × α :=
  have h : min i (b.bins - 1) + 1 < b.edges.size := by
    have := b.two_le_size
    simp only [bins]
    omega
  (b.edges[min i (b.bins - 1)], b.edges[min i (b.bins - 1) + 1])

/-- The binning with another choice for values outside the range. -/
def withOverflow (b : Binning α) (o : Overflow) : Binning α := { b with overflow := o }

variable [Scalar α]

/-- The edges of `n` bins of equal width. -/
def uniformEdges (n : Nat) (lower upper : α) : Array α :=
  (Array.ofFn fun i : Fin n => lower + Scalar.ofNat i.val * ((upper - lower) / Scalar.ofNat n)).push upper

/-- The binning of a range into `n` bins of equal width. -/
def ofRange (axis : Axis) (n : Nat) (lower upper : α) : Except (BinningError α) (Binning α) :=
  if h : n = 0 then .error .noBins
  else if ¬ lower < upper then .error (.emptyRange lower upper axis)
  else .ok {
    axis := axis
    edges := uniformEdges n lower upper
    uniform := true
    two_le_size := by simp only [uniformEdges, Array.size_push, Array.size_ofFn]; omega }

/-- Whether each value is below the next. -/
def strictlyIncreasing : List α → Bool
  | u :: v :: rest => decide (u < v) && strictlyIncreasing (v :: rest)
  | _ => true

/-- The binning with the given edges. -/
def ofEdges (axis : Axis) (edges : List α) : Except (BinningError α) (Binning α) :=
  if h : edges.length < 2 then .error .tooFewEdges
  else if ¬ strictlyIncreasing edges then .error .unorderedEdges
  else .ok {
    axis := axis
    edges := edges.toArray
    uniform := false
    two_le_size := by simp only [List.size_toArray]; omega }

/-- Whether a value lies in the range, both ends included. -/
def inside (b : Binning α) (v : α) : Bool := b.lower ≤ v ∧ v ≤ b.upper

/-- The value at which the bin is looked up: on a circle, the point of the range. -/
def lookupValue (b : Binning α) (v : α) : α :=
  match b.overflow with
  | .clamp => v
  | .wrap => b.lower + Scalar.modulo (v - b.lower) (b.upper - b.lower)

/-- The width of a bin of a uniform binning. -/
def step (b : Binning α) : α := (b.upper - b.lower) / Scalar.ofNat b.bins

/-- The bin of a value of a uniform binning, without the choice for values outside: a division. -/
def binByDivision (b : Binning α) (v : α) : Nat :=
  min (Scalar.toNat ((v - b.lower) / b.step)) (b.bins - 1)

/-- The bin of a value, without the choice for values outside: the number of edges that are not above it, less one. -/
def binBySearch (b : Binning α) (v : α) : Nat :=
  min ((b.edges.toList.takeWhile (· ≤ v)).length - 1) (b.bins - 1)

/-- The bin of a value. -/
def bin (b : Binning α) (v : α) : Nat :=
  if b.uniform then b.binByDivision (b.lookupValue v) else b.binBySearch (b.lookupValue v)

/-- The middle of bin `i`. -/
def center (b : Binning α) (i : Nat) : α := 0.5 * ((b.edgesOf i).1 + (b.edgesOf i).2)

/-- The width of bin `i`. -/
def width (b : Binning α) (i : Nat) : α := (b.edgesOf i).2 - (b.edgesOf i).1

end Binning

end DetectorReadout
