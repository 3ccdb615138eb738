import DetectorReadout.Surface

/-!
# Detectors

A detector is a set of surfaces, no two of them with the same address. Its surfaces can be found by address, and they are
listed in the order of their addresses.
-/

namespace DetectorReadout

/-- The surfaces of a detector, by address. -/
structure Detector (α : Type) [Scalar α] where
  /-- The surface with each address. -/
  byId : Std.ExtTreeMap GeometryId (Surface α) := ∅

namespace Detector

variable {α : Type} [Scalar α]

/-- The detector without surfaces. -/
def empty : Detector α := {}

instance : EmptyCollection (Detector α) := ⟨empty⟩

/-- The surface with an address. -/
def find? (d : Detector α) (id : GeometryId) : Option (Surface α) := d.byId[id]?

/-- Adds a surface, unless there is one with the same address. -/
def add (d : Detector α) (s : Surface α) : Except (GeometryError α) (Detector α) :=
  if d.byId.contains s.id then .error (.duplicateSurface s.id) else .ok ⟨d.byId.insert s.id s⟩

/-- The surfaces, in the order of their addresses. -/
def surfaces (d : Detector α) : List (Surface α) := d.byId.values

/-- The number of surfaces. -/
def size (d : Detector α) : Nat := d.byId.size

/-- Whether there are no surfaces. -/
def isEmpty (d : Detector α) : Bool := d.byId.isEmpty

end Detector

end DetectorReadout
