import DetectorReadout.Proofs.DigitizerOrder
import DetectorReadout.Proofs.StepCells

/-!
# The channels of clusters

The cells of a cluster are those of the steps, and its channel is that of its position, wherever the drift has moved it. Both
come out of the lookup of a binning, which always ends in a bin. So the cells and the channel lie in the segmentation whatever
the coordinates are, infinite ones and those that are no numbers included (`Digitizer.channelsInRange_of_mem`).
-/

namespace DetectorReadout

/-- The channels of a cluster lie in a segmentation. -/
structure Cluster.ChannelsInRange {α : Type} [Scalar α] (c : Cluster α) (s : Segmentation α) : Prop where
  /-- The bins of a cell are bins of the segmentation. -/
  cell_lt : ∀ cell ∈ c.cells, cell.channel0 < s.grid.bins 0 ∧ cell.channel1 < s.grid.bins 1
  /-- The channel of the position is one of those in the first layer. -/
  channel_lt : c.channel < s.grid.bins 0 * s.grid.bins 1
  /-- All of these are channels of the segmentation. -/
  layer_le : s.grid.bins 0 * s.grid.bins 1 ≤ s.grid.serialSize
  /-- The channel stands for the bins of the position. -/
  deserialize_channel : s.grid.deserialize c.channel = ⟨s.x.bin c.position.x, s.y.bin c.position.y, 0⟩
  /-- There is a cell. -/
  cells_ne_nil : c.cells ≠ []
  /-- Neighbours in the list of cells are different cells. -/
  isChain_cells : c.cells.IsChain fun a b => ¬ a.sameChannel b

/-- Steps that give a cluster are not empty, as no steps have no length. -/
theorem ne_nil_of_centroid {steps : List (Step Float)} {mean : Vec2 Float} (h : centroid steps = some mean) :
    steps ≠ [] := by
  rintro rfl
  have hnone : centroid ([] : List (Step Float)) = none := if_neg (by decide)
  cases hnone.symm.trans h

/-- The channels of a cluster made of steps in different cells of the segmentation lie in it. -/
theorem Cluster.channelsInRange_ofSteps {surface : Surface Float} {module : ReadoutModule Float} {thickness time : Float}
    {origin : ClusterOrigin} {steps : List (Step Float)} {c : Cluster Float}
    (h : ofSteps surface module thickness origin time steps = some c)
    (hcells : ∀ s ∈ steps, s.cell.channel0 < module.segmentation.x.bins ∧ s.cell.channel1 < module.segmentation.y.bins)
    (hchain : steps.IsChain fun a b => ¬ a.cell.sameChannel b.cell) : c.ChannelsInRange module.segmentation := by
  obtain ⟨mean, hmean, rfl⟩ := Option.map_eq_some_iff.1 h
  refine
    { cell_lt := ?_
      channel_lt := module.segmentation.channel_lt _
      layer_le := module.segmentation.grid.layer_le_serialSize
      deserialize_channel := module.segmentation.deserialize_channel _
      cells_ne_nil := fun hnil => ne_nil_of_centroid hmean (List.map_eq_nil_iff.1 hnil)
      isChain_cells := (List.isChain_map _).2 hchain }
  intro cell hcell
  obtain ⟨s, hs, rfl⟩ := List.mem_map.1 hcell
  exact hcells s hs

namespace Digitizer

/-- A cluster is made of the steps through the readout of the surface of its hit. -/
theorem exists_of_cluster?_eq_some {d : Digitizer Float} {ctx : GeometryContext} {id : GeometryId} {hit : Hit Float}
    {c : Cluster Float} (h : d.cluster? ctx id hit = some c) :
    c.surface = hit.surface ∧ ∃ module thickness origin, hit.surface.readout? = some module ∧
      Cluster.ofSteps hit.surface module thickness origin hit.time
        (d.stepper ctx module (hit.surface.toLocal ctx hit.position hit.direction).position
          (hit.surface.toLocal ctx hit.position hit.direction).direction) = some c := by
  unfold cluster? at h
  split at h
  · rename_i element hsupport
    obtain ⟨module, hmodule, hc⟩ := Option.bind_eq_some_iff.1 h
    have hsurface : c.surface = hit.surface := by
      obtain ⟨mean, -, rfl⟩ := Option.map_eq_some_iff.1 hc
      rfl
    exact ⟨hsurface, module, _, _, by rw [Surface.readout?, hsupport]; exact hmodule, hc⟩
  · cases h

/-- No cluster carries a channel that its segmentation does not have. Take any clusters that a digitizer makes with the stepper
for planar modules, of any tolerance, from any hits, in order or not. Whatever scalars there are in the hits, the placements
and the modules, every cell of a cluster and the channel of its position lie in the segmentation of its surface, the channel
stands for the bins of the position, and the cells are at least one and differ from neighbour to neighbour. -/
theorem channelsInRange_of_mem {d : Digitizer Float} {stepper : PlanarStepper Float}
    (hstepper : d.stepper = stepper.toStepper) (ctx : GeometryContext) (entries : List (GeometryId × Hit Float))
    {id : GeometryId} {c : Cluster Float} (hc : (id, c) ∈ SortedMultimap.toList (d.digitizeEntries ctx entries)) :
    ∃ module, c.surface.readout? = some module ∧ c.ChannelsInRange module.segmentation := by
  rw [(stableSort_digitizeEntries d ctx entries).perm.mem_iff] at hc
  obtain ⟨⟨id', hit⟩, -, hkeyed⟩ := List.mem_filterMap.1 hc
  obtain ⟨c', hcluster, hpair⟩ := Option.map_eq_some_iff.1 hkeyed
  cases hpair
  obtain ⟨hsurface, module, thickness, origin, hmodule, hsteps⟩ := exists_of_cluster?_eq_some hcluster
  rw [hstepper] at hsteps
  exact ⟨module, hsurface ▸ hmodule, Cluster.channelsInRange_ofSteps hsteps
    (fun _ => PlanarStepper.cell_lt_of_mem_steps) (stepper.isChain_steps module _ _)⟩

/-- A hit at a time that is no number, on a module with three binnings: the first one is a circle, the second one has an infinite
end, and the element is infinitely thick, so the drift takes the position off the module. The track crosses an edge. -/
theorem channelsInRange_of_mem_infinite :
    let x : Binning Float := ⟨.x, .wrap, #[-1, 0, 2], false, by decide⟩
    let y : Binning Float := ⟨.y, .clamp, #[-1, 0, Binary64.infinity], false, by decide⟩
    let third : Binning Float := ⟨.x, .clamp, #[0, 1, 2, 3], true, by decide⟩
    let segmentation : Segmentation Float := ⟨x, y, some third, rfl, rfl⟩
    let module : ReadoutModule Float := ⟨segmentation, 0.15, .positive, 0.3, by decide, by decide⟩
    let surface : Surface Float := ⟨⟨1⟩, .planar ⟨7, .identity, Binary64.infinity, ∅, some module⟩⟩
    let hit : Hit Float := ⟨surface, ⟨0, 0.1, 0⟩, ⟨0.5, 0, 0.5⟩, 1, Binary64.notANumber, 0⟩
    let d : Digitizer Float := ⟨"hits", "clusters", (PlanarStepper.mk 1e-9).toStepper, {}, by decide, by decide⟩
    ∃ c, (⟨1⟩, c) ∈ SortedMultimap.toList (d.digitizeEntries {} [(⟨1⟩, hit)]) ∧
      (∀ cell ∈ c.cells, cell.channel0 < 2 ∧ cell.channel1 < 2) ∧ c.channel < 4 ∧ segmentation.grid.serialSize = 12 := by
  intro x y third segmentation module surface hit d
  have hsome : (d.cluster? {} ⟨1⟩ hit).isSome = true := by decide +kernel
  obtain ⟨c, hcluster⟩ := Option.isSome_iff_exists.1 hsome
  have hmem : (⟨1⟩, c) ∈ SortedMultimap.toList (d.digitizeEntries {} [(⟨1⟩, hit)]) := by
    rw [(stableSort_digitizeEntries d {} [(⟨1⟩, hit)]).perm.mem_iff]
    exact List.mem_filterMap.2 ⟨(⟨1⟩, hit), List.mem_singleton_self _, by rw [keyedCluster?, hcluster]; rfl⟩
  have hstepper : d.stepper = PlanarStepper.toStepper ⟨1e-9⟩ := rfl
  obtain ⟨module', hmodule, hrange⟩ := channelsInRange_of_mem hstepper {} [(⟨1⟩, hit)] hmem
  rw [(exists_of_cluster?_eq_some hcluster).1] at hmodule
  cases Option.some.inj hmodule
  exact ⟨c, hmem, hrange.cell_lt, hrange.channel_lt, rfl⟩

end Digitizer

end DetectorReadout
