import DetectorReadout.Surface

/-!
# Hits in the frame of their surface

What the readout of a surface sees of a hit: the position within the surface, and the direction in the local frame. The
direction is made a unit vector before it is rotated.
-/

namespace DetectorReadout

/-- Position and direction of a hit in the frame of its surface. -/
structure LocalHit (α : Type) where
  /-- The position within the surface; the coordinate along the normal is dropped. -/
  position : Vec2 α
  /-- The direction. -/
  direction : Vec3 α
deriving DecidableEq, BEq, Repr

/-- A global position and direction in the frame of a surface. -/
def Surface.toLocal {α : Type} [Scalar α] (s : Surface α) (ctx : GeometryContext) (position direction : Vec3 α) :
    LocalHit α where
  position := ((s.placement ctx).pointToLocal position).truncate
  direction := (s.placement ctx).vectorToLocal direction.unit

end DetectorReadout
