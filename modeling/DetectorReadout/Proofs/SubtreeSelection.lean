import DetectorReadout.Proofs.AddressPrefixes
import DetectorReadout.Proofs.KeyRanges
import DetectorReadout.SortedMultimap.Selection

/-!
# What a selection contains

In a map keyed by addresses, selecting the part of the detector below a place cuts out the range from the first address below the
place to the last. These are the addresses that agree with the place down to the level of the selection
(`GeometryId.between_iff`), so a selection is the filter on the leading fields (`select_eq_filter`), whatever the place has in the
fields below. Selecting a volume, a layer or a surface by numbers is a filter on these numbers, each reduced to what its field can
hold (`selections_are_filters`).
-/

namespace DetectorReadout

universe u

namespace GeometryId

/-- An address agrees with that of a volume down to the volume if it has its number. -/
theorem agreesDownTo_volume_iff (x : GeometryId) (volume : UInt64) :
    x.AgreesDownTo (set ⟨0⟩ .volume volume) .volume ↔ x.get .volume = volume % 0x100 := by
  rw [agreesDownTo_volume, get_set_self]
  rfl

/-- An address agrees with that of a layer down to the layer if it has its numbers and no boundary. -/
theorem agreesDownTo_layer_iff (x : GeometryId) (volume layer : UInt64) :
    x.AgreesDownTo ((set ⟨0⟩ .volume volume).set .layer layer) .layer ↔
      x.get .volume = volume % 0x100 ∧ x.get .boundary = 0 ∧ x.get .layer = layer % 0x1000 := by
  rw [agreesDownTo_of_below (f := .boundary) rfl, agreesDownTo_of_below (f := .volume) rfl, agreesDownTo_volume, and_assoc,
    get_set_of_ne (f := .layer) (g := .volume) _ (by decide), get_set_self,
    get_set_of_ne (f := .layer) (g := .boundary) _ (by decide), get_set_of_ne (f := .volume) (g := .boundary) _ (by decide),
    get_zero, get_set_self]
  rfl

end GeometryId

namespace SortedMultimap

variable {ν : Type u}

/-- A selection from a map in order holds the entries that agree with the place down to the level, in the order of the map. -/
theorem select_eq_filter {m : GeometryMultimap ν} (hm : m.Ordered) (place : GeometryId) (f : GeometryField) :
    m.select place f = m.toList.filter fun e => e.1.AgreesDownTo place f := by
  rw [select, rangeInclusive_eq_filter hm]
  exact List.filter_congr fun e _ => decide_eq_decide.2 GeometryId.between_iff

/-- The fields below the level of a selection do not matter, and a layer at a boundary of the volume is not one of the volume. -/
example :
    let m : GeometryMultimap Char := ⟨#[(.pack 0 0 0 0 5, 'a'), (.pack 1 0 2 0 1, 'b'), (.pack 1 3 2 0 1, 'c'),
      (.pack 1 3 2 0 7, 'd'), (.pack 2 0 0 0 0, 'e')]⟩
    m.select (.pack 1 3 9 9 9) .boundary = [(.pack 1 3 2 0 1, 'c'), (.pack 1 3 2 0 7, 'd')] ∧
      m.selectLayer 257 2 = [(.pack 1 0 2 0 1, 'b')] := by
  decide +kernel

/-- From every map that came about by edits, a selection holds exactly the entries whose addresses agree with the place on the
level of the selection and on all levels above it, in the order of the map, whatever the place has below. So a volume and a layer
are selected by their numbers, which lose what their fields cannot hold, a layer in the volume itself and not at a boundary of it,
and a surface is selected as the lowest level. -/
theorem selections_are_filters (edits : List (Edit GeometryId ν)) :
    let m : GeometryMultimap ν := afterEdits edits
    (∀ place f, m.select place f = m.toList.filter fun e => e.1.AgreesDownTo place f) ∧
      (∀ volume, m.selectVolume volume = m.toList.filter fun e => e.1.get .volume = volume % 0x100) ∧
      (∀ volume layer, m.selectLayer volume layer = m.toList.filter fun e =>
        e.1.get .volume = volume % 0x100 ∧ e.1.get .boundary = 0 ∧ e.1.get .layer = layer % 0x1000) ∧
      ∀ volume layer sensitive,
        m.selectModule volume layer sensitive = m.select (.ofModule volume layer sensitive) .sensitive := by
  intro m
  have hselect : ∀ place f, m.select place f = m.toList.filter fun e => e.1.AgreesDownTo place f :=
    select_eq_filter (ordered_afterEdits edits)
  refine ⟨hselect, fun volume => ?_, fun volume layer => ?_, fun volume layer sensitive => ?_⟩
  · rw [selectVolume, hselect]
    exact List.filter_congr fun e _ => decide_eq_decide.2 (e.1.agreesDownTo_volume_iff volume)
  · rw [selectLayer, hselect]
    exact List.filter_congr fun e _ => decide_eq_decide.2 (e.1.agreesDownTo_layer_iff volume layer)
  · rw [selectModule, hselect, equalRange_eq_filter (ordered_afterEdits edits)]
    exact List.filter_congr fun e _ => decide_eq_decide.2 GeometryId.agreesDownTo_sensitive.symm

end SortedMultimap

end DetectorReadout
