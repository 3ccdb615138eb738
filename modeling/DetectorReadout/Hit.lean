import DetectorReadout.Barcode
import DetectorReadout.SortedMultimap.Selection
import DetectorReadout.Surface

/-!
# Hits

A hit is the crossing of a surface by a simulated particle. The hits of one event are kept in a multimap by the address of
their surface.
-/

namespace DetectorReadout

/-- The crossing of a surface by a particle. -/
structure Hit (α : Type) [Scalar α] where
  /-- The surface. -/
  surface : Surface α
  /-- Where the particle was, in the global frame. -/
  position : Vec3 α
  /-- Where the particle was going, in the global frame. -/
  direction : Vec3 α
  /-- The energy left behind. -/
  value : α
  /-- When it happened. -/
  time : α
  /-- The particle. -/
  particle : Barcode

/-- The hits of one event. -/
abbrev Hits (α : Type) [Scalar α] := GeometryMultimap (Hit α)

namespace Hits

variable {α : Type} [Scalar α]

/-- The hits of a list. Hits on one surface keep their order. -/
def ofList (hits : List (Hit α)) : Hits α := .ofUnsorted (hits.map fun h => (h.surface.id, h))

end Hits

end DetectorReadout
