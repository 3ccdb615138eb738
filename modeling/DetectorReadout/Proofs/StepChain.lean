import DetectorReadout.Proofs.ClippedTrack

/-!
# The chain of the steps

The steps of a track lie back to back: each begins at the very point where the one before it ends. A piece begins where the
piece before it ends because both points are computed from the same parameter in the same way, and a prolonged step takes over
the end of the piece that prolongs it together with its length. Nothing is assumed of the scalars, so this holds of rounded
numbers, infinite ones and those that are no numbers as well (`PlanarStepper.steps_gapless`).
-/

namespace DetectorReadout

namespace PlanarStepper

variable {α : Type} [Scalar α]

/-- Steps that lead through the cells of a segmentation without a gap. -/
structure Gapless (segmentation : Segmentation α) (steps : List (Step α)) : Prop where
  /-- Each step begins where the one before it ends. -/
  exit_eq_entry : steps.IsChain fun t t' => t.exit = t'.entry
  /-- Neighbours are in different cells. -/
  not_sameChannel : steps.IsChain fun t t' => ¬ t.cell.sameChannel t'.cell
  /-- The number that belongs to the cell of a step is the length of the step. -/
  data_eq_length : ∀ t ∈ steps, t.cell.data = t.length
  /-- A step knows the middle of its cell. -/
  center_eq : ∀ t ∈ steps, t.center = segmentation.cellCenter t.cell
  /-- The cells lie in the segmentation. -/
  cell_lt : ∀ t ∈ steps, t.cell.channel0 < segmentation.x.bins ∧ t.cell.channel1 < segmentation.y.bins

/-! ## Joining -/

/-- Joining leaves no gap between steps that lie back to back. -/
theorem exit_eq_entry_joinFrom {first : Step α} {rest : List (Step α)}
    (h : (first :: rest).IsChain fun t t' => t.exit = t'.entry) :
    (joinFrom first rest).IsChain fun t t' => t.exit = t'.entry := by
  induction rest generalizing first with
  | nil => exact h
  | cons next rest ih =>
    obtain ⟨hmeet, hnext⟩ := List.isChain_cons_cons.1 h
    unfold joinFrom
    split
    · -- The prolonged step ends where the next piece does.
      refine ih ?_
      rw [List.isChain_cons] at hnext ⊢
      exact hnext
    · refine List.isChain_cons.2 ⟨fun t ht => ?_, ih hnext⟩
      have hentry : t.entry = next.entry := by
        have hhead := head?_joinFrom next rest
        rw [Option.mem_def.1 ht] at hhead
        exact Option.some.inj hhead
      rw [hentry, hmeet]

theorem exit_eq_entry_join {l : List (Step α)} (h : l.IsChain fun t t' => t.exit = t'.entry) :
    (join l).IsChain fun t t' => t.exit = t'.entry := by
  cases l with
  | nil => exact h
  | cons first rest => exact exit_eq_entry_joinFrom h

/-- Joining adds no steps. -/
theorem length_join_le (l : List (Step α)) : (join l).length ≤ l.length := by
  simpa using (map_channels_join_sublist l).length_le

theorem join_ne_nil {l : List (Step α)} (h : l ≠ []) : join l ≠ [] := by
  cases l with
  | nil => exact absurd rfl h
  | cons first rest =>
    obtain ⟨head, tail, hjoin, -, -⟩ := joinFrom_eq_cons_isChain first rest
    rw [join, hjoin]
    exact List.cons_ne_nil head tail

theorem head?_join (l : List (Step α)) : (join l).head?.map Step.entry = l.head?.map Step.entry := by
  cases l with
  | nil => rfl
  | cons first rest => exact head?_joinFrom first rest

theorem getLast?_join (l : List (Step α)) : (join l).getLast?.map Step.exit = l.getLast?.map Step.exit := by
  cases l with
  | nil => rfl
  | cons first rest => exact getLast?_joinFrom first rest

/-! ## Cuts and pieces -/

theorem cuts_ne_nil (s : PlanarStepper α) (start delta : Vec3 α) (edgesX edgesY : List α) :
    s.cuts start delta edgesX edgesY ≠ [] := by
  unfold cuts
  cases (s.edgeCrossings start.x delta.x edgesX ++ s.edgeCrossings start.y delta.y edgesY).mergeSort
      Scalar.totalLe with
  | nil => exact List.cons_ne_nil _ _
  | cons u rest => exact List.cons_ne_nil _ _

section Pieces

variable (segmentation : Segmentation α) (start delta : Vec3 α) (length : α)

theorem length_pieces (cuts : List α) : (pieces segmentation start delta length cuts).length = cuts.length := by
  rw [pieces, List.length_map, List.length_zip, List.length_cons]
  exact Nat.min_eq_right (Nat.le_succ _)

theorem head?_pieces {cuts : List α} (h : cuts ≠ []) :
    (pieces segmentation start delta length cuts).head?.map Step.entry = some (start + delta * (0 : α)) := by
  cases cuts with
  | nil => exact absurd rfl h
  | cons u rest => rfl

variable {segmentation start delta length}

/-- The cell of a piece has the length of the piece, and the piece knows the middle of its cell. -/
theorem of_mem_pieces {cuts : List α} {t : Step α} (ht : t ∈ pieces segmentation start delta length cuts) :
    t.cell.data = t.length ∧ t.center = segmentation.cellCenter t.cell := by
  obtain ⟨⟨before, after⟩, -, rfl⟩ := List.mem_map.1 ht
  exact ⟨rfl, rfl⟩

end Pieces

/-- The joined pieces of a part of a track have no gap. -/
theorem gapless_join_pieces (segmentation : Segmentation α) (start delta : Vec3 α) (length : α) (cuts : List α) :
    Gapless segmentation (join (pieces segmentation start delta length cuts)) where
  exit_eq_entry := exit_eq_entry_join (isChain_piecesFrom segmentation start delta length 0 cuts)
  not_sameChannel := isChain_join _
  data_eq_length := forall_mem_join (fun _ _ _ => rfl) fun _ ht => (of_mem_pieces ht).1
  center_eq := forall_mem_join (fun _ _ hfirst => hfirst) fun _ ht => (of_mem_pieces ht).2
  cell_lt := forall_mem_join (fun _ _ hfirst => hfirst) fun _ => cell_lt_of_mem_pieces

theorem gapless_nil (segmentation : Segmentation α) : Gapless segmentation [] where
  exit_eq_entry := List.IsChain.nil
  not_sameChannel := List.IsChain.nil
  data_eq_length _ ht := absurd ht List.not_mem_nil
  center_eq _ ht := absurd ht List.not_mem_nil
  cell_lt _ ht := absurd ht List.not_mem_nil

/-! ## The steps of a track -/

theorem gapless_steps (s : PlanarStepper α) (module : ReadoutModule α) (position : Vec2 α) (direction : Vec3 α) :
    Gapless module.segmentation (s.steps module position direction) := by
  rcases s.steps_cases module position direction with hnil | ⟨start, delta, cuts, hjoin⟩
  · rw [hnil]
    exact gapless_nil _
  · rw [hjoin]
    exact gapless_join_pieces _ start delta _ cuts

/-- A track has steps if a part of it is left. -/
theorem steps_ne_nil_of_clippedTrack? {s : PlanarStepper α} {module : ReadoutModule α} {position : Vec2 α}
    {direction : Vec3 α} {track : Vec3 α × Vec3 α} (h : s.clippedTrack? module position direction = some track) :
    s.steps module position direction ≠ [] := by
  rw [steps_of_clippedTrack?_eq_some h]
  refine join_ne_nil fun hnil => s.cuts_ne_nil track.1 track.2 module.segmentation.x.edges.toList
    module.segmentation.y.edges.toList ?_
  rw [← List.length_eq_zero_iff, ← length_pieces module.segmentation track.1 track.2 track.2.length, hnil, List.length_nil]

/-- The steps of a track have no gap, whatever the scalars are: where one ends the next begins, neighbours are in different
cells, and each step carries its own length and the middle of its cell, which lies in the segmentation. A track of which nothing
is left after clipping has no steps. Any other track has some, at most one for each cut, and they lead from the beginning of
what is left to the last cut. -/
theorem steps_gapless (s : PlanarStepper α) (module : ReadoutModule α) (position : Vec2 α) (direction : Vec3 α) :
    let steps := s.steps module position direction
    Gapless module.segmentation steps ∧
      (s.clippedTrack? module position direction = none → steps = []) ∧
      ∀ start delta, s.clippedTrack? module position direction = some (start, delta) →
        let cuts := s.cuts start delta module.segmentation.x.edges.toList module.segmentation.y.edges.toList
        steps ≠ [] ∧ steps.length ≤ cuts.length ∧
          steps.head?.map Step.entry = some (start + delta * (0 : α)) ∧
          steps.getLast?.map Step.exit = cuts.getLast?.map fun u => start + delta * u := by
  intro steps
  refine ⟨s.gapless_steps module position direction, steps_of_clippedTrack?_eq_none, fun start delta htrack => ?_⟩
  intro cuts
  have hcuts : cuts ≠ [] := s.cuts_ne_nil start delta _ _
  have hlength := length_pieces module.segmentation start delta delta.length cuts
  have hsteps : steps = join (pieces module.segmentation start delta delta.length cuts) :=
    steps_of_clippedTrack?_eq_some htrack
  refine ⟨steps_ne_nil_of_clippedTrack? htrack, ?_, ?_, ?_⟩
  · rw [hsteps, ← hlength]
    exact length_join_le _
  · rw [hsteps, head?_join, head?_pieces _ _ _ _ hcuts]
  · rw [hsteps, getLast?_join, pieces_eq, getLast?_piecesFrom]

/-- A slanted track at a position with a coordinate that is no number, on a module with an axis that is a circle: it is cut once,
and its two steps have no gap although neither their lengths nor their ends are numbers. -/
theorem steps_gapless_not_a_number :
    let x : Binning Float := ⟨.x, .clamp, #[-1, 0, 1], true, by decide⟩
    let y : Binning Float := ⟨.y, .wrap, #[-1, 0, 1], false, by decide⟩
    let segmentation : Segmentation Float := ⟨x, y, none, rfl, rfl⟩
    let module : ReadoutModule Float := ⟨segmentation, 0.25, .positive, 0, by decide, by decide⟩
    let s : PlanarStepper Float := ⟨1e-9⟩
    let steps := s.steps module ⟨0, Binary64.notANumber⟩ ⟨1, 1, 1⟩
    ∃ start delta, s.clippedTrack? module ⟨0, Binary64.notANumber⟩ ⟨1, 1, 1⟩ = some (start, delta) ∧
      steps.length = 2 ∧ Gapless segmentation steps ∧
      2 ≤ (s.cuts start delta [-1, 0, 1] [-1, 0, 1]).length ∧
      steps.head?.map Step.entry = some (start + delta * (0 : Float)) := by
  intro x y segmentation module s steps
  have hsome : (s.clippedTrack? module ⟨0, Binary64.notANumber⟩ ⟨1, 1, 1⟩).isSome = true := by decide +kernel
  obtain ⟨⟨start, delta⟩, htrack⟩ := Option.isSome_iff_exists.1 hsome
  have htwo : steps.length = 2 := by decide +kernel
  obtain ⟨hgapless, -, h⟩ := steps_gapless s module ⟨0, Binary64.notANumber⟩ ⟨1, 1, 1⟩
  obtain ⟨-, hlength, hhead, -⟩ := h start delta htrack
  exact ⟨start, delta, htrack, htwo, hgapless, htwo.symm.trans_le hlength, hhead⟩

end PlanarStepper

end DetectorReadout
