import DetectorReadout.Readout.Segmentation

/-!
# Readout modules

How a planar silicon module is read out: its cells, its thickness, the face towards which charge drifts, and the angle by
which a magnetic field bends the drift.
-/

namespace DetectorReadout

/-- The face of a module towards which charge drifts. -/
inductive ReadoutSide where
  /-- The face with positive local z. -/
  | positive
  /-- The face with negative local z. -/
  | negative
deriving DecidableEq, Repr

namespace ReadoutSide

/-- The side with the given sign. -/
def ofInt? (n : Int) : Option ReadoutSide := if n = 1 then some positive else if n = -1 then some negative else none

/-- The sign of the side. -/
def toInt : ReadoutSide → Int
  | positive => 1
  | negative => -1

/-- The sign of the side, as a scalar. -/
def sign {α : Type} [Scalar α] : ReadoutSide → α
  | positive => 1
  | negative => -1

end ReadoutSide

/-- The readout of a planar module. -/
structure ReadoutModule (α : Type) [Scalar α] where
  /-- The cells. -/
  segmentation : Segmentation α
  /-- Half the thickness of the sensor. -/
  halfThickness : α
  /-- The face towards which charge drifts. -/
  side : ReadoutSide
  /-- The angle of the drift, in radians. -/
  lorentzAngle : α
  /-- The sensor has a thickness. -/
  halfThickness_pos : 0 < halfThickness
  /-- The angle is a number. -/
  isFinite_lorentzAngle : Scalar.isFinite lorentzAngle = true

namespace ReadoutModule

variable {α : Type} [Scalar α]

/-- The readout with the given properties. -/
def make (segmentation : Segmentation α) (halfThickness : α) (direction : Int) (lorentzAngle : α) :
    Except (ModuleError α) (ReadoutModule α) :=
  if ht : 0 < halfThickness then
    match ReadoutSide.ofInt? direction with
    | none => .error (.readoutDirection direction)
    | some side =>
      if ha : Scalar.isFinite lorentzAngle = true then .ok ⟨segmentation, halfThickness, side, lorentzAngle, ht, ha⟩
      else .error (.lorentzAngle lorentzAngle)
  else .error (.halfThickness halfThickness)

/-- The thickness of the sensor. -/
def thickness (m : ReadoutModule α) : α := 2.0 * m.halfThickness

end ReadoutModule

end DetectorReadout
