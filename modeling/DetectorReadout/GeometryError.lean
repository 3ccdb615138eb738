import DetectorReadout.Decimal.Shortest
import DetectorReadout.GeometryId
import DetectorReadout.Scalar

/-!
# What is wrong with a description of the detector

Every cause that makes a description unusable is a constructor of `GeometryError`, with the values that were refused.
-/

namespace DetectorReadout

/-- A local coordinate of a surface that can be measured. -/
inductive Axis where
  /-- First coordinate. -/
  | x
  /-- Second coordinate. -/
  | y
deriving DecidableEq, Repr

/-- The name of the coordinate. -/
def Axis.name : Axis → String
  | .x => "LocalX"
  | .y => "LocalY"

/-- Why a binning cannot be used. -/
inductive BinningError (α : Type) where
  /-- There are no bins. -/
  | noBins
  /-- The lower end of the range is not below the upper one. -/
  | emptyRange (lower upper : α) (axis : Axis)
  /-- There are fewer than two edges. -/
  | tooFewEdges
  /-- The edges are not strictly increasing. -/
  | unorderedEdges
  /-- There are more than three binned dimensions. -/
  | tooManyDimensions
  /-- A half length is not positive. -/
  | halfLengths (x y : α)
  /-- A grid of cells needs two binned dimensions. -/
  | tooFewDimensions
  /-- The first two dimensions are not the first and the second local coordinate. -/
  | axisOrder
deriving DecidableEq, Repr

/-- Why a readout module cannot be used. -/
inductive ModuleError (α : Type) where
  /-- The half thickness is not positive. -/
  | halfThickness (value : α)
  /-- The readout direction is neither up nor down. -/
  | readoutDirection (value : Int)
  /-- The Lorentz angle is not finite. -/
  | lorentzAngle (value : α)
deriving DecidableEq, Repr

/-- Why a detector cannot be built. -/
inductive GeometryError (α : Type) where
  /-- A binning cannot be used. -/
  | binning (cause : BinningError α)
  /-- A readout module cannot be used. -/
  | module (cause : ModuleError α)
  /-- Two surfaces have the same address. -/
  | duplicateSurface (id : GeometryId)
deriving DecidableEq, Repr

/-- The cause in words. -/
def BinningError.message : BinningError Float → String
  | noBins => "at least one bin is required"
  | emptyRange lower upper axis =>
    "empty range [" ++ Decimal.text lower ++ ", " ++ Decimal.text upper ++ ") for " ++ axis.name
  | tooFewEdges => "at least two boundaries are required"
  | unorderedEdges => "boundaries must be strictly increasing"
  | tooManyDimensions => "a bin utility has at most three dimensions"
  | halfLengths x y =>
    "half lengths must be positive, got (" ++ Decimal.text x ++ ", " ++ Decimal.text y ++ ")"
  | tooFewDimensions => "segmentation needs two binned dimensions"
  | axisOrder => "segmentation must bin local x then local y"

/-- The cause in words. -/
def ModuleError.message : ModuleError Float → String
  | halfThickness value => "half thickness must be positive, got " ++ Decimal.text value
  | readoutDirection value => "readout direction must be +1 or -1, got " ++ value.repr
  | lorentzAngle value => "lorentz angle must be finite, got " ++ Decimal.text value

/-- The cause in words. -/
def GeometryError.message : GeometryError Float → String
  | binning cause => "invalid binning: " ++ cause.message
  | module cause => "invalid module: " ++ cause.message
  | duplicateSurface id => "duplicate surface " ++ id.text

end DetectorReadout
