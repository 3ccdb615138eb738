import DetectorReadout.Barcode
import DetectorReadout.Digitization.Step

/-!
# Clusters

A cluster is what the readout makes of one hit: the cells that the track went through, a position, and the number of the
channel there. The position is the mean of the middles of the cells, weighted by the lengths of the steps, and then
shifted along local x by the drift in the magnetic field.
-/

namespace DetectorReadout

/-- Millimetres in a micrometre. -/
def micrometre {α : Type} [Scalar α] : α := 1e-3

/-- Nanoseconds in a picosecond. -/
def picosecond {α : Type} [Scalar α] : α := 1e-3

/-- Variance of each local coordinate of a cluster. -/
def localVariance {α : Type} [Scalar α] : α := 0.05

/-- Variance of the time of a cluster. -/
def timeVariance {α : Type} [Scalar α] : α := 900.0 * picosecond * picosecond

/-- Covariance of the local coordinates and the time of a cluster, the same for all clusters. -/
def clusterCovariance {α : Type} [Scalar α] : Mat3 α := .diagonal ⟨localVariance, localVariance, timeVariance⟩

/-- Where a cluster comes from. -/
structure ClusterOrigin where
  /-- The identifier of the module in the readout. -/
  identifier : UInt64
  /-- The particles that contributed. -/
  particles : List Barcode
deriving DecidableEq, Repr

/-- A cluster of cells on a planar module. -/
structure Cluster (α : Type) [Scalar α] where
  /-- The surface on which it was measured. -/
  surface : Surface α
  /-- Where it comes from. -/
  origin : ClusterOrigin
  /-- Covariance of the local coordinates and the time. -/
  covariance : Mat3 α
  /-- The position, shifted by the drift. -/
  position : Vec2 α
  /-- The time of the hit. -/
  time : α
  /-- The number of the channel of the position. -/
  channel : Nat
  /-- The cells, with the lengths of the path inside them. -/
  cells : List (Cell α)

variable {α : Type} [Scalar α]

/-- Clusters are compared by value, their surfaces by address. -/
instance [BEq α] : BEq (Cluster α) where
  beq c d := c.surface.id = d.surface.id && c.origin = d.origin && c.covariance == d.covariance &&
    c.position == d.position && c.time == d.time && c.channel = d.channel && c.cells == d.cells

/-- The sum of the lengths of some steps. -/
def totalLength (steps : List (Step α)) : α := steps.foldl (fun sum s => sum + s.length) 0

/-- The mean of the middles of the cells, weighted by the lengths of the steps. Steps without length have none. -/
def centroid (steps : List (Step α)) : Option (Vec2 α) :=
  if 0 < totalLength steps then
    some (steps.foldl (fun sum s => sum + s.center * s.length) (0 : Vec2 α) / totalLength steps)
  else none

/-- The shift of the position along local x by the drift of charge through a material of the given thickness. -/
def lorentzShift (thickness lorentzAngle : α) (side : ReadoutSide) : α :=
  thickness * Scalar.tan lorentzAngle * -side.sign

/-- The cluster of one hit on a module whose element has the given thickness. -/
def Cluster.ofSteps (surface : Surface α) (module : ReadoutModule α) (thickness : α) (origin : ClusterOrigin) (time : α)
    (steps : List (Step α)) : Option (Cluster α) :=
  (centroid steps).map fun mean =>
    let position : Vec2 α := ⟨mean.x + lorentzShift thickness module.lorentzAngle module.side, mean.y⟩
    { surface := surface
      origin := origin
      covariance := clusterCovariance
      position := position
      time := time
      channel := module.segmentation.channel position
      cells := steps.map fun s => { s.cell with data := s.length } }

end DetectorReadout
