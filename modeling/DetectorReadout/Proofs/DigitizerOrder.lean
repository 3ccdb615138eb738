import DetectorReadout.Event.Digitizer
import DetectorReadout.Proofs.Insertion

/-!
# The order of clusters

The digitizer takes hits one by one and stores each cluster at the end, or in its place if its address is smaller than the
last one. Whichever way the clusters take, storing one keeps the stable sort (`Digitizer.stableSort_store`), so the result is
the stable sort of the clusters in the order of their hits (`Digitizer.stableSort_foldl_store`). What one hit gives does not
depend on the others (`Digitizer.keyedCluster?`).
-/

namespace DetectorReadout

namespace Digitizer

variable {α : Type} [Scalar α]

/-- The cluster of one hit under the address of the hit, if it gives one. -/
def keyedCluster? (d : Digitizer α) (ctx : GeometryContext) (e : GeometryId × Hit α) : Option (GeometryId × Cluster α) :=
  (d.cluster? ctx e.1 e.2).map fun c => (e.1, c)

/-- A cluster stands under the address of its hit. -/
theorem fst_of_keyedCluster? {d : Digitizer α} {ctx : GeometryContext} (e : GeometryId × Hit α) (x : GeometryId × Cluster α)
    (h : d.keyedCluster? ctx e = some x) : x.1 = e.1 := by
  obtain ⟨c, -, rfl⟩ := Option.map_eq_some_iff.1 h
  rfl

/-- A hit gives a cluster exactly when its surface stands on a planar element that is read out, and the steps of its track have
a centroid. -/
theorem cluster?_isSome_iff (d : Digitizer α) (ctx : GeometryContext) (id : GeometryId) (hit : Hit α) :
    (d.cluster? ctx id hit).isSome ↔
      ∃ element module, hit.surface.support = .planar element ∧ element.readout = some module ∧
        (centroid (d.stepper ctx module (hit.surface.toLocal ctx hit.position hit.direction).position
          (hit.surface.toLocal ctx hit.position hit.direction).direction)).isSome := by
  unfold cluster?
  cases hit.surface.support with
  | fixed placement => simp
  | passive element => simp
  | planar element => cases hr : element.readout <;> simp [hr, Cluster.ofSteps]

/-- Storing one more cluster keeps the stable sort, whether the cluster is appended or has to be inserted. -/
theorem stableSort_store {log : List (GeometryId × Cluster α)} {clusters : Clusters α}
    (h : StableSort log (SortedMultimap.toList clusters)) (id : GeometryId) (c : Cluster α) :
    StableSort (log ++ [(id, c)]) (SortedMultimap.toList (store clusters id c)) := by
  unfold store
  rcases SortedMultimap.insertSortedEnd_cases h.ordered id c with ⟨m, hok, happend, hle⟩ | ⟨last, -, herr, -, -⟩
  · rw [hok]
    simp only
    rw [happend]
    exact StableSort.insert_between (by simpa using h) hle (by simp)
  · obtain ⟨a, b, hsplit, hinsert, -, ha, hb⟩ := SortedMultimap.insert_split h.ordered id c
    rw [herr]
    simp only
    rw [hinsert]
    exact StableSort.insert_between (hsplit ▸ h) ha hb

/-- Storing clusters one after another gives their stable sort. -/
theorem stableSort_foldl_store (l : List (GeometryId × Cluster α)) {log : List (GeometryId × Cluster α)}
    {clusters : Clusters α} (h : StableSort log (SortedMultimap.toList clusters)) :
    StableSort (log ++ l) (SortedMultimap.toList (l.foldl (fun clusters e => store clusters e.1 e.2) clusters)) := by
  induction l generalizing log clusters with
  | nil => simpa using h
  | cons e l ih =>
    rw [List.foldl_cons, List.append_cons]
    exact ih (stableSort_store h e.1 e.2)

/-- Digitizing stores the clusters that hits give, one after another, and passes over the hits that give none. -/
theorem digitizeEntries_eq_foldl (d : Digitizer α) (ctx : GeometryContext) (entries : List (GeometryId × Hit α)) :
    d.digitizeEntries ctx entries =
      (entries.filterMap (d.keyedCluster? ctx)).foldl (fun clusters e => store clusters e.1 e.2) .empty := by
  rw [List.foldl_filterMap, digitizeEntries]
  congr 1
  funext clusters e
  cases h : d.cluster? ctx e.1 e.2 <;> simp [keyedCluster?, h]

/-- The clusters are the stable sort of what the hits give. -/
theorem stableSort_digitizeEntries (d : Digitizer α) (ctx : GeometryContext) (entries : List (GeometryId × Hit α)) :
    StableSort (entries.filterMap (d.keyedCluster? ctx)) (SortedMultimap.toList (d.digitizeEntries ctx entries)) := by
  rw [digitizeEntries_eq_foldl]
  have hnil : StableSort [] (SortedMultimap.toList (.empty : Clusters α)) := StableSort.nil
  exact stableSort_foldl_store (entries.filterMap (d.keyedCluster? ctx)) hnil

/-- The clusters of collected hits are the stable sort of what the hits give, in the order in which they stood before they were
collected. -/
theorem stableSort_digitize (d : Digitizer α) (ctx : GeometryContext) {log : List (GeometryId × Hit α)} {hits : Hits α}
    (h : StableSort log (SortedMultimap.toList hits)) :
    StableSort (log.filterMap (d.keyedCluster? ctx)) (SortedMultimap.toList (d.digitize ctx hits)) ∧
      SortedMultimap.toList (d.digitize ctx hits) =
        (SortedMultimap.toList hits).filterMap (d.keyedCluster? ctx) := by
  have hmap := h.filterMap (f := d.keyedCluster? ctx) fst_of_keyedCluster?
  have hsame : SortedMultimap.toList (d.digitize ctx hits) =
      (SortedMultimap.toList hits).filterMap (d.keyedCluster? ctx) :=
    (stableSort_digitizeEntries d ctx (SortedMultimap.toList hits)).unique (StableSort.of_ordered hmap.ordered)
  exact ⟨hsame ▸ hmap, hsame⟩

/-- Digitizing is a stable map that looks at every hit alone. For every list of hits with their addresses, in whatever order,
the clusters are the stable sort of what the hits give one by one; so they are in order, each hit gives at most one, no
cluster is lost and equal addresses keep the order of the hits. Hits that come in order need no sort. -/
theorem digitizeEntries_is_stable_filterMap (d : Digitizer α) (ctx : GeometryContext)
    (entries : List (GeometryId × Hit α)) :
    d.digitizeEntries ctx entries = .ofUnsorted (entries.filterMap (d.keyedCluster? ctx)) ∧
      (∀ id hit, (d.cluster? ctx id hit).isSome ↔
        ∃ element module, hit.surface.support = .planar element ∧ element.readout = some module ∧
          (centroid (d.stepper ctx module (hit.surface.toLocal ctx hit.position hit.direction).position
            (hit.surface.toLocal ctx hit.position hit.direction).direction)).isSome) ∧
      StableSort (entries.filterMap (d.keyedCluster? ctx)) (SortedMultimap.toList (d.digitizeEntries ctx entries)) ∧
      (SortedMultimap.size (d.digitizeEntries ctx entries) ≤ entries.length) ∧
      (∀ e ∈ entries, ∀ c, d.cluster? ctx e.1 e.2 = some c →
        (e.1, c) ∈ SortedMultimap.toList (d.digitizeEntries ctx entries)) ∧
      ((entries.Pairwise fun a b => a.1 ≤ b.1) →
        SortedMultimap.toList (d.digitizeEntries ctx entries) = entries.filterMap (d.keyedCluster? ctx)) := by
  have hsort := stableSort_digitizeEntries d ctx entries
  refine ⟨SortedMultimap.toList_inj hsort.eq_mergeSort, d.cluster?_isSome_iff ctx, hsort, ?_, ?_, ?_⟩
  · rw [← SortedMultimap.length_toList, hsort.perm.length_eq]
    exact List.length_filterMap_le _ _
  · intro e he c hc
    exact hsort.perm.mem_iff.2 (List.mem_filterMap.2 ⟨e, he, by simp [keyedCluster?, hc]⟩)
  · intro hentries
    refine hsort.unique (StableSort.of_ordered (List.pairwise_filterMap.2 (hentries.imp ?_)))
    intro a b hab x hx y hy
    obtain ⟨c, -, rfl⟩ := Option.map_eq_some_iff.1 hx
    obtain ⟨c', -, rfl⟩ := Option.map_eq_some_iff.1 hy
    exact hab

end Digitizer

end DetectorReadout
