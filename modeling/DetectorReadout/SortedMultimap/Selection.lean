import DetectorReadout.GeometryId
import DetectorReadout.SortedMultimap.Basic

/-!
# Selecting a part of the detector

In a map keyed by addresses, everything below one place of the hierarchy is one contiguous run of entries: from the first
address with the given leading fields to the last one.
-/

namespace DetectorReadout

universe u

/-- A multimap keyed by addresses of surfaces. -/
abbrev GeometryMultimap (ν : Type u) := SortedMultimap GeometryId ν

namespace SortedMultimap

variable {ν : Type u}

/-- The entries whose addresses agree with `place` on the field `f` and on every field above it. -/
def select (m : GeometryMultimap ν) (place : GeometryId) (f : GeometryField) : List (GeometryId × ν) :=
  m.rangeInclusive ⟨place.value &&& f.prefixMask⟩ (GeometryId.lastBelow ⟨place.value &&& f.prefixMask⟩ f.mask)

/-- The entries of one volume. -/
def selectVolume (m : GeometryMultimap ν) (volume : UInt64) : List (GeometryId × ν) :=
  m.select (GeometryId.set ⟨0⟩ .volume volume) .volume

/-- The entries of one layer. -/
def selectLayer (m : GeometryMultimap ν) (volume layer : UInt64) : List (GeometryId × ν) :=
  m.select ((GeometryId.set ⟨0⟩ .volume volume).set .layer layer) .layer

/-- The entries of one sensitive surface. -/
def selectModule (m : GeometryMultimap ν) (volume layer sensitive : UInt64) : List (GeometryId × ν) :=
  m.equalRange (GeometryId.ofModule volume layer sensitive)

end SortedMultimap

end DetectorReadout
