import Mathlib.Data.List.Destutter
import DetectorReadout.Digitization.Step
import DetectorReadout.Proofs.ExactScalars

/-!
# The cuts of a track

Under exact arithmetic, a track is cut at parameters that ascend in steps larger than the tolerance, from above zero up to one
(`PlanarStepper.isChain_cuts`, `PlanarStepper.getLast?_cuts`). Not every crossing of a cell edge is a cut, as those close to
each other or to an end of the track are dropped, but none is further than the tolerance from the nearest cut, zero included
(`PlanarStepper.exists_cut_near`). Both come from reading the thinning of the sorted crossings as `List.destutter'`, which
keeps a value if it is far enough from the last one kept. The tolerance may be zero; only if it is positive, an extent that is not
neglected is not zero either (`PlanarStepper.crossesEdgeAt_iff`).
-/

namespace DetectorReadout

namespace PlanarStepper

/-! ## Thinning -/

section Thinning

variable (s : PlanarStepper ℝ)

/-- Thinning keeps what is further than the tolerance from the last value kept. -/
theorem cons_thinFrom (last : ℝ) (l : List ℝ) :
    last :: s.thinFrom last l = l.destutter' (fun u v => s.tolerance < v - u) last := by
  induction l generalizing last with
  | nil => rfl
  | cons u rest ih =>
    unfold thinFrom
    split
    · rename_i h
      rw [ih, List.destutter'_cons, if_neg (not_lt.2 h)]
    · rename_i h
      rw [ih, List.destutter'_cons, if_pos (not_le.1 h)]

theorem isChain_thinFrom (last : ℝ) (l : List ℝ) :
    (last :: s.thinFrom last l).IsChain fun u v => s.tolerance < v - u := by
  rw [cons_thinFrom]
  exact List.isChain_destutter' _ _ _

theorem mem_of_mem_thinFrom {last u : ℝ} {l : List ℝ} (h : u ∈ s.thinFrom last l) : u ∈ l := by
  have hsub : (last :: s.thinFrom last l).Sublist (last :: l) := by
    rw [cons_thinFrom]
    exact List.destutter'_sublist _ _ _
  exact (List.cons_sublist_cons.1 hsub).subset h

/-- A value that is far from all values before it is kept. -/
theorem thinFrom_concat {last v : ℝ} {l : List ℝ} (hlast : s.tolerance < v - last)
    (h : ∀ u ∈ l, s.tolerance < v - u) : s.thinFrom last (l ++ [v]) = s.thinFrom last l ++ [v] := by
  induction l generalizing last with
  | nil => exact if_neg (not_le.2 hlast)
  | cons u rest ih =>
    have hrest : ∀ w ∈ rest, s.tolerance < v - w := fun w hw => h w (List.mem_cons_of_mem u hw)
    rw [List.cons_append, thinFrom, thinFrom]
    split
    · exact ih hlast hrest
    · rw [ih (h u List.mem_cons_self) hrest, List.cons_append]

/-- Thinning values that are all far from zero is the same as going on from zero. -/
theorem thin_eq_thinFrom_zero {l : List ℝ} (h : ∀ u ∈ l, s.tolerance < u) : s.thin l = s.thinFrom 0 l := by
  cases l with
  | nil => rfl
  | cons u rest =>
    have hu : ¬ u - 0 ≤ s.tolerance := not_le.2 (by simpa using h u List.mem_cons_self)
    exact (if_neg hu).symm

/-- Every one of some ascending values has a kept one at most the tolerance below it. -/
theorem exists_kept_near (htol : 0 ≤ s.tolerance) {last u : ℝ} {l : List ℝ} (hl : (last :: l).Pairwise (· ≤ ·))
    (hu : u ∈ l) : ∃ k ∈ last :: s.thinFrom last l, k ≤ u ∧ u ≤ k + s.tolerance := by
  induction l generalizing last with
  | nil => exact absurd hu List.not_mem_nil
  | cons v rest ih =>
    obtain ⟨hlast, hrest⟩ := List.pairwise_cons.1 hl
    have hv := hlast v List.mem_cons_self
    unfold thinFrom
    split
    · rename_i hclose
      rcases List.mem_cons.1 hu with rfl | hu
      · exact ⟨last, List.mem_cons_self, hv, sub_le_iff_le_add'.1 hclose⟩
      · have hskip : (last :: rest).Pairwise (· ≤ ·) :=
          List.pairwise_cons.2 ⟨fun w hw => hlast w (List.mem_cons_of_mem v hw), (List.pairwise_cons.1 hrest).2⟩
        exact ih hskip hu
    · rcases List.mem_cons.1 hu with rfl | hu
      · exact ⟨u, List.mem_cons_of_mem last List.mem_cons_self, le_rfl, le_add_of_nonneg_right htol⟩
      · obtain ⟨k, hk, hnear⟩ := ih hrest hu
        exact ⟨k, List.mem_cons_of_mem last hk, hnear⟩

theorem exists_mem_thin_near (htol : 0 ≤ s.tolerance) {u : ℝ} {l : List ℝ} (hl : l.Pairwise (· ≤ ·)) (hu : u ∈ l) :
    ∃ k ∈ s.thin l, k ≤ u ∧ u ≤ k + s.tolerance := by
  cases l with
  | nil => exact absurd hu List.not_mem_nil
  | cons first rest =>
    rcases List.mem_cons.1 hu with rfl | hu
    · exact ⟨u, List.mem_cons_self, le_rfl, le_add_of_nonneg_right htol⟩
    · exact s.exists_kept_near htol hl hu

end Thinning

/-! ## Crossings -/

/-- The crossings of cell edges that lie well inside the track, in ascending order. -/
def crossings {α : Type} [Scalar α] (s : PlanarStepper α) (start delta : Vec3 α) (edgesX edgesY : List α) : List α :=
  (s.edgeCrossings start.x delta.x edgesX ++ s.edgeCrossings start.y delta.y edgesY).mergeSort Scalar.totalLe

/-- The coordinate reaches an edge at a parameter, and its extent is not neglected. -/
def CrossesAt (s : PlanarStepper ℝ) (origin extent : ℝ) (edges : List ℝ) (u : ℝ) : Prop :=
  s.tolerance ≤ |extent| ∧ origin + extent * u ∈ edges

/-- The track crosses an edge at the parameter, of an axis along which it moves. -/
def CrossesEdgeAt (s : PlanarStepper ℝ) (start delta : Vec3 ℝ) (edgesX edgesY : List ℝ) (u : ℝ) : Prop :=
  (delta.x ≠ 0 ∧ s.CrossesAt start.x delta.x edgesX u) ∨ (delta.y ≠ 0 ∧ s.CrossesAt start.y delta.y edgesY u)

variable {s : PlanarStepper ℝ}

/-- If the tolerance is positive, an extent that is not neglected is not zero. -/
theorem crossesEdgeAt_iff (h0 : 0 < s.tolerance) {start delta : Vec3 ℝ} {edgesX edgesY : List ℝ} {u : ℝ} :
    s.CrossesEdgeAt start delta edgesX edgesY u ↔
      s.CrossesAt start.x delta.x edgesX u ∨ s.CrossesAt start.y delta.y edgesY u := by
  have hmoves {origin extent : ℝ} {edges : List ℝ} : extent ≠ 0 ∧ s.CrossesAt origin extent edges u ↔
      s.CrossesAt origin extent edges u :=
    and_iff_right_of_imp fun h => abs_pos.1 (h0.trans_le h.1)
  rw [CrossesEdgeAt, hmoves, hmoves]

section Crossings

variable (h0 : 0 ≤ s.tolerance)

include h0

/-- The crossings that are found are those well inside the track. Where the track does not move along the axis there is none: the
quotient is zero, and so not above the tolerance. -/
theorem mem_edgeCrossings_iff {origin extent u : ℝ} {edges : List ℝ} :
    u ∈ s.edgeCrossings origin extent edges ↔
      (extent ≠ 0 ∧ s.CrossesAt origin extent edges u) ∧ s.tolerance < u ∧ u < 1 - s.tolerance := by
  unfold edgeCrossings CrossesAt
  rw [Scalar.abs_real]
  split
  · rename_i hsmall
    simp [not_le.2 hsmall]
  · rename_i hlarge
    simp only [List.mem_filter, List.mem_map, decide_eq_true_eq]
    refine and_congr_left fun ⟨hlow, _⟩ => ⟨?_, ?_⟩
    · rintro ⟨e, he, rfl⟩
      have hextent : extent ≠ 0 := by
        rintro rfl
        rw [div_zero] at hlow
        exact absurd h0 (not_le.2 hlow)
      rw [mul_div_cancel₀ _ hextent, add_sub_cancel]
      exact ⟨hextent, not_lt.1 hlarge, he⟩
    · rintro ⟨hextent, -, he⟩
      exact ⟨_, he, by rw [add_sub_cancel_left, mul_div_cancel_left₀ _ hextent]⟩

variable (start delta : Vec3 ℝ) (edgesX edgesY : List ℝ)

theorem mem_crossings_iff {u : ℝ} : u ∈ s.crossings start delta edgesX edgesY ↔
    s.CrossesEdgeAt start delta edgesX edgesY u ∧ s.tolerance < u ∧ u < 1 - s.tolerance := by
  rw [crossings, List.mem_mergeSort, List.mem_append, mem_edgeCrossings_iff h0, mem_edgeCrossings_iff h0, CrossesEdgeAt,
    or_and_right]

omit h0 in
theorem pairwise_crossings : (s.crossings start delta edgesX edgesY).Pairwise (· ≤ ·) := by
  have htrans : ∀ u v w : ℝ, Scalar.totalLe u v = true → Scalar.totalLe v w = true → Scalar.totalLe u w = true := by
    simp only [Scalar.totalLe_real, decide_eq_true_eq]
    exact fun _ _ _ => le_trans
  have htotal : ∀ u v : ℝ, (Scalar.totalLe u v || Scalar.totalLe v u) = true := by
    simp only [Scalar.totalLe_real, Bool.or_eq_true, decide_eq_true_eq]
    exact le_total
  exact (List.pairwise_mergeSort htrans htotal _).imp of_decide_eq_true

variable (h1 : s.tolerance < 1)

include h1

/-- The cuts are the crossings thinned from zero on, then one. -/
theorem cuts_eq_concat :
    s.cuts start delta edgesX edgesY = s.thinFrom 0 (s.crossings start delta edgesX edgesY) ++ [1] := by
  have hone : ∀ u ∈ s.crossings start delta edgesX edgesY, s.tolerance < 1 - u := by
    intro u hu
    have := ((mem_crossings_iff h0 _ _ _ _).1 hu).2.2
    linarith
  have hfar : ∀ u ∈ s.crossings start delta edgesX edgesY ++ [1], s.tolerance < u := by
    intro u hu
    rcases List.mem_append.1 hu with hu | hu
    · exact ((mem_crossings_iff h0 _ _ _ _).1 hu).2.1
    · rwa [List.mem_singleton.1 hu]
  calc s.cuts start delta edgesX edgesY
      = s.thin (s.crossings start delta edgesX edgesY ++ [1]) := rfl
    _ = s.thinFrom 0 (s.crossings start delta edgesX edgesY ++ [1]) := s.thin_eq_thinFrom_zero hfar
    _ = _ := s.thinFrom_concat (by rwa [sub_zero]) hone

/-- From zero on, each cut is further than the tolerance above the one before it. -/
theorem isChain_cuts : (0 :: s.cuts start delta edgesX edgesY).IsChain fun u v => s.tolerance < v - u := by
  rw [cuts_eq_concat h0 start delta edgesX edgesY h1, ← s.thinFrom_concat (by rwa [sub_zero])]
  · exact s.isChain_thinFrom 0 _
  · intro u hu
    have := ((mem_crossings_iff h0 _ _ _ _).1 hu).2.2
    linarith

theorem getLast?_cuts : (s.cuts start delta edgesX edgesY).getLast? = some 1 := by
  rw [cuts_eq_concat h0 start delta edgesX edgesY h1, List.getLast?_concat]

end Crossings

section PositiveTolerance

variable (h0 : 0 < s.tolerance) (start delta : Vec3 ℝ) (edgesX edgesY : List ℝ) (h1 : s.tolerance < 1)

include h0 h1

/-- From zero on, the cuts ascend. -/
theorem ascending_cuts : (0 :: s.cuts start delta edgesX edgesY).IsChain (· < ·) :=
  (isChain_cuts h0.le start delta edgesX edgesY h1).imp fun _ _ h => sub_pos.1 (h0.trans h)

theorem le_one_of_mem_cuts : ∀ u ∈ s.cuts start delta edgesX edgesY, u ≤ 1 := by
  rw [cuts_eq_concat h0.le start delta edgesX edgesY h1]
  intro u hu
  rcases List.mem_append.1 hu with hu | hu
  · have := ((mem_crossings_iff h0.le _ _ _ _).1 (s.mem_of_mem_thinFrom hu)).2.2
    linarith
  · exact (List.mem_singleton.1 hu).le

/-- Each end of the track and each crossing of an edge has a cut within the tolerance. -/
theorem exists_cut_near {u : ℝ} (hu0 : 0 ≤ u) (hu1 : u ≤ 1)
    (hu : u = 0 ∨ u = 1 ∨ s.CrossesAt start.x delta.x edgesX u ∨ s.CrossesAt start.y delta.y edgesY u) :
    ∃ k ∈ 0 :: s.cuts start delta edgesX edgesY, |u - k| ≤ s.tolerance := by
  have hcuts := cuts_eq_concat h0.le start delta edgesX edgesY h1
  by_cases hlow : u ≤ s.tolerance
  · exact ⟨0, List.mem_cons_self, by rwa [sub_zero, abs_of_nonneg hu0]⟩
  by_cases hhigh : 1 - s.tolerance ≤ u
  · refine ⟨1, by simp [hcuts], ?_⟩
    rw [abs_sub_comm, abs_of_nonneg (sub_nonneg.2 hu1)]
    linarith
  -- What is left is a crossing well inside the track, and thinning keeps one close to it.
  have hcross : s.CrossesAt start.x delta.x edgesX u ∨ s.CrossesAt start.y delta.y edgesY u := by
    rcases hu with rfl | rfl | hu
    · exact absurd h0.le hlow
    · exact absurd (sub_le_self 1 h0.le) hhigh
    · exact hu
  have hmem := (mem_crossings_iff h0.le start delta edgesX edgesY).2
    ⟨(crossesEdgeAt_iff h0).2 hcross, not_le.1 hlow, not_le.1 hhigh⟩
  have hsorted : (0 :: s.crossings start delta edgesX edgesY).Pairwise (· ≤ ·) :=
    List.pairwise_cons.2
      ⟨fun v hv => (h0.trans ((mem_crossings_iff h0.le _ _ _ _).1 hv).2.1).le, pairwise_crossings _ _ _ _⟩
  obtain ⟨k, hk, hle, hge⟩ := s.exists_kept_near h0.le hsorted hmem
  refine ⟨k, ?_, abs_le.2 ⟨by linarith, by linarith⟩⟩
  rw [hcuts, ← List.cons_append]
  exact List.mem_append_left _ hk

end PositiveTolerance

/-! ## The cuts as a whole -/

/-- A track is cut at parameters that ascend in steps larger than the tolerance, from above the tolerance up to one, which is the
last cut. All others are true crossings of an edge. No crossing is missed that lies well inside the track: each has a cut at or
below it within the tolerance. All this holds for edges in any order, and if the tolerance is zero. -/
theorem cuts_ascend_and_miss_no_crossing (s : PlanarStepper ℝ) (h0 : 0 ≤ s.tolerance) (h1 : s.tolerance < 1)
    (start delta : Vec3 ℝ) (edgesX edgesY : List ℝ) :
    let cuts := s.cuts start delta edgesX edgesY
    cuts.getLast? = some 1 ∧ (∃ first, cuts.head? = some first ∧ s.tolerance < first) ∧
      cuts.IsChain (fun u v => s.tolerance < v - u) ∧ cuts.Pairwise (· < ·) ∧
      (∀ u ∈ cuts.dropLast, s.CrossesEdgeAt start delta edgesX edgesY u) ∧
      ∀ u, s.CrossesEdgeAt start delta edgesX edgesY u → s.tolerance < u → u < 1 - s.tolerance →
        ∃ k ∈ cuts, k ≤ u ∧ u ≤ k + s.tolerance := by
  intro cuts
  have hlast : cuts.getLast? = some 1 := getLast?_cuts h0 start delta edgesX edgesY h1
  have hchain : (0 :: cuts).IsChain fun u v => s.tolerance < v - u := isChain_cuts h0 start delta edgesX edgesY h1
  have hascending : cuts.Pairwise (· < ·) := (hchain.tail.imp fun u v h => sub_pos.1 (h0.trans_lt h)).pairwise
  refine ⟨hlast, ?_, hchain.tail, hascending, ?_, ?_⟩
  · cases hcuts : cuts with
    | nil => simp [hcuts] at hlast
    | cons first rest =>
      rw [hcuts, List.isChain_cons_cons, sub_zero] at hchain
      exact ⟨first, rfl, hchain.1⟩
  · intro u hu
    have hcuts : cuts = s.thinFrom 0 (s.crossings start delta edgesX edgesY) ++ [1] :=
      cuts_eq_concat h0 start delta edgesX edgesY h1
    rw [hcuts, List.dropLast_concat] at hu
    exact ((mem_crossings_iff h0 _ _ _ _).1 (s.mem_of_mem_thinFrom hu)).1
  · intro u hu hlow hhigh
    have hmem := (mem_crossings_iff h0 start delta edgesX edgesY).2 ⟨hu, hlow, hhigh⟩
    have hsorted : (s.crossings start delta edgesX edgesY ++ [1]).Pairwise (· ≤ ·) := by
      refine List.pairwise_append.2 ⟨pairwise_crossings _ _ _ _, List.pairwise_singleton _ _, ?_⟩
      intro v hv w hw
      rw [List.mem_singleton.1 hw]
      have := ((mem_crossings_iff h0 _ _ _ _).1 hv).2.2
      linarith
    exact s.exists_mem_thin_near h0 hsorted (List.mem_append_left _ hmem)

/-- With tolerance zero, a track along the first axis that runs on an edge of the second one is cut at the edge it crosses. -/
theorem cuts_ascend_and_miss_no_crossing_along_edge :
    let s : PlanarStepper ℝ := ⟨0⟩
    let cuts := s.cuts 0 ⟨1, 0, 0⟩ [1, 2⁻¹, 0] [0]
    0 ≤ s.tolerance ∧ s.tolerance < 1 ∧ s.CrossesEdgeAt 0 ⟨1, 0, 0⟩ [1, 2⁻¹, 0] [0] 2⁻¹ ∧ cuts.getLast? = some 1 ∧
      2⁻¹ ∈ cuts := by
  intro s cuts
  have h0 : 0 ≤ s.tolerance := le_rfl
  have h1 : s.tolerance < 1 := one_pos
  have hcross : s.CrossesEdgeAt 0 ⟨1, 0, 0⟩ [1, 2⁻¹, 0] [0] 2⁻¹ := by
    refine Or.inl ⟨one_ne_zero, abs_nonneg _, ?_⟩
    simp
  have hcuts := cuts_ascend_and_miss_no_crossing s h0 h1 0 ⟨1, 0, 0⟩ [1, 2⁻¹, 0] [0]
  obtain ⟨k, hk, hle, hge⟩ := hcuts.2.2.2.2.2 2⁻¹ hcross (by norm_num [s]) (by norm_num [s])
  have hkept : k = 2⁻¹ := le_antisymm hle (by simpa [s] using hge)
  exact ⟨h0, h1, hcross, hcuts.1, hkept ▸ hk⟩

end PlanarStepper

end DetectorReadout
