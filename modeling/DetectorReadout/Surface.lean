import DetectorReadout.GeometryId
import DetectorReadout.Placement
import DetectorReadout.Readout.Module
import Std.Data.ExtTreeMap

/-!
# Surfaces

A surface has an address and stands somewhere. It either has a placement of its own or stands on a detector element:
passive material, which never moves, or a planar element, whose placement may be realigned from one epoch to the next and
which may be read out.
-/

namespace DetectorReadout

/-- The conditions under which the geometry is looked at. -/
structure GeometryContext where
  /-- The alignment epoch. -/
  epoch : UInt64 := 0
deriving DecidableEq, Repr

/-- A planar silicon module. -/
structure PlanarElement (α : Type) [Scalar α] where
  /-- The identifier of the element in the readout. -/
  identifier : UInt64
  /-- The placement in all epochs that have no alignment. -/
  nominal : Placement α
  /-- The material thickness. -/
  thickness : α
  /-- The placements of the epochs that have an alignment. -/
  aligned : Std.ExtTreeMap UInt64 (Placement α) := ∅
  /-- How the element is read out, if it is. -/
  readout : Option (ReadoutModule α) := none

/-- Material that is not read out, such as a support. -/
structure PassiveElement (α : Type) where
  /-- The placement. -/
  placement : Placement α
  /-- The material thickness. -/
  thickness : α

/-- What a surface stands on. -/
inductive Support (α : Type) [Scalar α] where
  /-- Nothing: the surface has a placement of its own. -/
  | fixed (placement : Placement α)
  /-- A planar element. -/
  | planar (element : PlanarElement α)
  /-- A passive element. -/
  | passive (element : PassiveElement α)

/-- A surface of the detector. On an element it keeps no placement beside that of the element: one that was taken when the surface
was built, in the default epoch, would never be looked at, since the element is asked in every epoch. -/
structure Surface (α : Type) [Scalar α] where
  /-- The address. -/
  id : GeometryId
  /-- What the surface stands on. -/
  support : Support α

variable {α : Type} [Scalar α]

namespace PlanarElement

/-- The element read out by a module. -/
def withReadout (e : PlanarElement α) (m : ReadoutModule α) : PlanarElement α := { e with readout := some m }

/-- The element with the placement of one epoch. A placement given earlier for the same epoch is forgotten. -/
def withAlignment (e : PlanarElement α) (epoch : UInt64) (p : Placement α) : PlanarElement α :=
  { e with aligned := e.aligned.insert epoch p }

/-- The placement under the given conditions. -/
def placement (e : PlanarElement α) (ctx : GeometryContext) : Placement α :=
  e.aligned[ctx.epoch]?.getD e.nominal

end PlanarElement

namespace Surface

/-- The placement under the given conditions. -/
def placement (s : Surface α) (ctx : GeometryContext) : Placement α :=
  match s.support with
  | .fixed p => p
  | .planar e => e.placement ctx
  | .passive e => e.placement

/-- The thickness of the element below, if there is one. -/
def thickness? (s : Surface α) : Option α :=
  match s.support with
  | .fixed _ => none
  | .planar e => some e.thickness
  | .passive e => some e.thickness

/-- The identifier of the element below in the readout, if it has one. -/
def identifier? (s : Surface α) : Option UInt64 :=
  match s.support with
  | .planar e => some e.identifier
  | _ => none

/-- How the surface is read out, if it is. -/
def readout? (s : Surface α) : Option (ReadoutModule α) :=
  match s.support with
  | .planar e => e.readout
  | _ => none

end Surface

end DetectorReadout
