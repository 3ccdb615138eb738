import Mathlib.MeasureTheory.Measure.Lebesgue.Basic
import Mathlib.MeasureTheory.Measure.Real
import Mathlib.Order.UpperLower.Closure
import DetectorReadout.Proofs.ChordLength

/-!
# The length of a track in a cell

A piece of a track is given to one cell as a whole, that of its middle. Under exact arithmetic, the steps in a cell are
therefore as long as the pieces whose middles lie in it (`PlanarStepper.heldLength`). The parameters in the cell form an
interval, and the pieces held by an interval reach from the cut nearest to its lower end to the cut nearest to its upper end
(`PlanarStepper.abs_heldLength_sub_volume_le`). Both ends are crossings of edges or ends of the track, none of which is further
than the tolerance from a cut, so each of them costs at most that much of the length of the track
(`PlanarStepper.cell_lengths_within_tolerance`).
-/

namespace DetectorReadout

open MeasureTheory

namespace PlanarStepper

/-! ## Pieces held by a set -/

section Held

open Classical in
/-- The length of the pieces between neighbouring cuts whose middles belong to a set of parameters. -/
noncomputable def heldLength (I : Set ℝ) : ℝ → List ℝ → ℝ
  | _, [] => 0
  | before, after :: cuts => (if (before + after) / 2 ∈ I then after - before else 0) + heldLength I after cuts

variable {I D E : Set ℝ} {first t : ℝ} {cuts : List ℝ}

theorem heldLength_cons_of_mem {next : ℝ} (h : (first + next) / 2 ∈ I) :
    heldLength I first (next :: cuts) = (next - first) + heldLength I next cuts := by
  rw [heldLength, if_pos h]

theorem heldLength_cons_of_notMem {next : ℝ} (h : (first + next) / 2 ∉ I) :
    heldLength I first (next :: cuts) = heldLength I next cuts := by
  rw [heldLength, if_neg h, zero_add]

theorem heldLength_nonneg (hcuts : (first :: cuts).IsChain (· < ·)) : 0 ≤ heldLength I first cuts := by
  induction cuts generalizing first with
  | nil => exact le_rfl
  | cons next cuts ih =>
    obtain ⟨hlt, hrest⟩ := List.isChain_cons_cons.1 hcuts
    by_cases h : (first + next) / 2 ∈ I
    · rw [heldLength_cons_of_mem h]
      exact add_nonneg (sub_nonneg.2 hlt.le) (ih hrest)
    · rw [heldLength_cons_of_notMem h]
      exact ih hrest

/-- Only the parameters between the first one and the last cut matter. -/
theorem heldLength_congr {last : ℝ} (hcuts : (first :: cuts).IsChain (· < ·)) (hlast : ∀ u ∈ cuts, u ≤ last)
    (h : ∀ u, first ≤ u → u ≤ last → (u ∈ D ↔ u ∈ E)) : heldLength D first cuts = heldLength E first cuts := by
  induction cuts generalizing first with
  | nil => rfl
  | cons next cuts ih =>
    obtain ⟨hlt, hrest⟩ := List.isChain_cons_cons.1 hcuts
    have hnext := hlast next List.mem_cons_self
    have hmiddle := h ((first + next) / 2) (by linarith) (by linarith)
    have htail := ih hrest (fun u hu => hlast u (List.mem_cons_of_mem next hu)) fun u hu => h u (hlt.le.trans hu)
    by_cases hD : (first + next) / 2 ∈ D
    · rw [heldLength_cons_of_mem hD, heldLength_cons_of_mem (hmiddle.1 hD), htail]
    · rw [heldLength_cons_of_notMem hD, heldLength_cons_of_notMem fun hE => hD (hmiddle.2 hE), htail]

theorem heldLength_sdiff (hsub : D ⊆ E) : heldLength (E \ D) first cuts = heldLength E first cuts - heldLength D first cuts := by
  induction cuts generalizing first with
  | nil => exact (sub_self 0).symm
  | cons next cuts ih =>
    by_cases hE : (first + next) / 2 ∈ E
    · by_cases hD : (first + next) / 2 ∈ D
      · rw [heldLength_cons_of_notMem fun h => h.2 hD, heldLength_cons_of_mem hE, heldLength_cons_of_mem hD, ih]
        ring
      · rw [heldLength_cons_of_mem (I := E \ D) ⟨hE, hD⟩, heldLength_cons_of_mem hE, heldLength_cons_of_notMem hD, ih]
        ring
    · rw [heldLength_cons_of_notMem fun h => hE h.1, heldLength_cons_of_notMem hE,
        heldLength_cons_of_notMem fun h => hE (hsub h), ih]

/-- What lies below the middle of two numbers is nearer to the lower one. -/
theorem abs_sub_le_of_le_middle {a b : ℝ} (hab : a ≤ b) (ht : t ≤ (a + b) / 2) : |a - t| ≤ |b - t| := by
  rw [abs_of_nonneg (a := b - t) (by linarith)]
  exact abs_le.2 ⟨by linarith, by linarith⟩

/-- What lies above the middle of two numbers is nearer to the upper one. -/
theorem abs_sub_le_of_middle_le {a b : ℝ} (hab : a ≤ b) (ht : (a + b) / 2 ≤ t) : |b - t| ≤ |a - t| := by
  rw [abs_sub_comm a, abs_of_nonneg (a := t - a) (by linarith)]
  exact abs_le.2 ⟨by linarith, by linarith⟩

/-- A set that goes up to a boundary holds the pieces up to a cut, and no cut is nearer to the boundary. -/
theorem abs_heldLength_sub_le (hlow : ∀ u, u < t → u ∈ D) (hhigh : ∀ u, t < u → u ∉ D)
    (hcuts : (first :: cuts).Pairwise (· < ·)) : ∀ k ∈ first :: cuts, |first + heldLength D first cuts - t| ≤ |k - t| := by
  induction cuts generalizing first with
  | nil =>
    intro k hk
    rw [List.mem_singleton.1 hk, heldLength, add_zero]
  | cons next cuts ih =>
    obtain ⟨hfirst, hrest⟩ := List.pairwise_cons.1 hcuts
    have hlt := hfirst next List.mem_cons_self
    have hnear := ih hrest
    by_cases hD : (first + next) / 2 ∈ D
    · -- The boundary is not below the middle, so the next cut is as near to it as the first one.
      have ht : (first + next) / 2 ≤ t := not_lt.1 fun h => hhigh _ h hD
      have hstep : first + ((next - first) + heldLength D next cuts) = next + heldLength D next cuts := by ring
      rw [heldLength_cons_of_mem hD, hstep]
      intro k hk
      rcases List.mem_cons.1 hk with rfl | hk
      · exact (hnear next List.mem_cons_self).trans (abs_sub_le_of_middle_le hlt.le ht)
      · exact hnear k hk
    · -- The boundary is not above the middle, so nothing is held, and all other cuts are further away.
      have ht : t ≤ (first + next) / 2 := not_lt.1 fun h => hD (hlow _ h)
      have hnone : heldLength D next cuts = 0 := by
        have hle := hnear next List.mem_cons_self
        rw [abs_of_nonneg (a := next - t) (by linarith)] at hle
        have hnonneg := heldLength_nonneg (I := D) hrest.isChain
        linarith [le_abs_self (next + heldLength D next cuts - t)]
      rw [heldLength_cons_of_notMem hD, hnone, add_zero]
      intro k hk
      rcases List.mem_cons.1 hk with rfl | hk
      · exact le_rfl
      · have hle : next ≤ k := by
          rcases List.mem_cons.1 hk with rfl | hk
          · exact le_rfl
          · exact ((List.pairwise_cons.1 hrest).1 k hk).le
        exact abs_sub_le_of_le_middle (hlt.le.trans hle) (by linarith)

end Held

/-! ## Pieces held by an interval -/

section Interval

variable {I : Set ℝ} (hI : I.OrdConnected) (hne : I.Nonempty) (hbelow : BddBelow I) (habove : BddAbove I)

include hne hbelow habove

theorem csInf_mem_frontier : sInf I ∈ frontier I := by
  refine ⟨csInf_mem_closure hne hbelow, fun h => ?_⟩
  have hmem := interior_mono (subset_Icc_csInf_csSup hbelow habove) h
  rw [interior_Icc] at hmem
  exact lt_irrefl _ hmem.1

theorem csSup_mem_frontier : sSup I ∈ frontier I := by
  refine ⟨csSup_mem_closure hne habove, fun h => ?_⟩
  have hmem := interior_mono (subset_Icc_csInf_csSup hbelow habove) h
  rw [interior_Icc] at hmem
  exact lt_irrefl _ hmem.2

include hI

/-- An interval is as long as the distance of its ends. -/
theorem volume_real_of_ordConnected : volume.real I = sSup I - sInf I := by
  have hle : sInf I ≤ sSup I := csInf_le_csSup hne hbelow habove
  have hinner : Set.Ioo (sInf I) (sSup I) ⊆ I :=
    IsConnected.Ioo_csInf_csSup_subset ⟨hne, hI.isPreconnected⟩ hbelow habove
  have houter : I ⊆ Set.Icc (sInf I) (sSup I) := subset_Icc_csInf_csSup hbelow habove
  have hfinite : volume I ≠ ⊤ := measure_ne_top_of_subset houter measure_Icc_lt_top.ne
  apply le_antisymm
  · rw [← Real.volume_real_Icc_of_le hle]
    exact measureReal_mono houter measure_Icc_lt_top.ne
  · rw [← Real.volume_real_Ioo_of_le hle]
    exact measureReal_mono hinner hfinite

/-- What an interval holds differs from its length by the distances of its ends from the cuts nearest to them. -/
theorem abs_heldLength_sub_sub_le {first : ℝ} {cuts : List ℝ} (hcuts : (first :: cuts).Pairwise (· < ·)) {p q : ℝ}
    (hp : p ∈ first :: cuts) (hq : q ∈ first :: cuts) :
    |heldLength I first cuts - (sSup I - sInf I)| ≤ |p - sInf I| + |q - sSup I| := by
  -- The interval is what reaches up to its upper end, without what lies below all of it.
  have hbetween : I = (lowerClosure I : Set ℝ) \ ((upperClosure I : Set ℝ)ᶜ) := by
    rw [Set.sdiff_compl, Set.inter_comm, hI.upperClosure_inter_lowerClosure]
  have hsub : ((upperClosure I : Set ℝ)ᶜ) ⊆ (lowerClosure I : Set ℝ) := by
    intro u hu
    obtain ⟨v, hv⟩ := hne
    refine ⟨v, hv, le_of_not_ge fun hvu => hu ⟨v, hv, hvu⟩⟩
  have hupper := abs_heldLength_sub_le (D := (lowerClosure I : Set ℝ)) (t := sSup I)
    (fun u hu => by
      obtain ⟨v, hv, huv⟩ := exists_lt_of_lt_csSup hne hu
      exact ⟨v, hv, huv.le⟩)
    (fun u hu ⟨v, hv, huv⟩ => absurd (hu.trans_le huv) (not_lt.2 (le_csSup habove hv)))
    hcuts q hq
  have hlower := abs_heldLength_sub_le (D := ((upperClosure I : Set ℝ)ᶜ)) (t := sInf I)
    (fun u hu ⟨v, hv, hvu⟩ => absurd (hvu.trans_lt hu) (not_lt.2 (csInf_le hbelow hv)))
    (fun u hu hnot => by
      obtain ⟨v, hv, hvu⟩ := exists_lt_of_csInf_lt hne hu
      exact hnot ⟨v, hv, hvu.le⟩)
    hcuts p hp
  have hheld : heldLength I first cuts =
      heldLength (lowerClosure I : Set ℝ) first cuts - heldLength ((upperClosure I : Set ℝ)ᶜ) first cuts := by
    conv_lhs => rw [hbetween]
    exact heldLength_sdiff hsub
  calc |heldLength I first cuts - (sSup I - sInf I)|
      = |(first + heldLength (lowerClosure I : Set ℝ) first cuts - sSup I) -
          (first + heldLength ((upperClosure I : Set ℝ)ᶜ) first cuts - sInf I)| := by rw [hheld]; congr 1; ring
    _ ≤ |first + heldLength (lowerClosure I : Set ℝ) first cuts - sSup I| +
          |first + heldLength ((upperClosure I : Set ℝ)ᶜ) first cuts - sInf I| := abs_sub _ _
    _ ≤ |q - sSup I| + |p - sInf I| := add_le_add hupper hlower
    _ = |p - sInf I| + |q - sSup I| := add_comm _ _

/-- If the ends of an interval have cuts within the tolerance, what it holds differs from its length by at most twice that. -/
theorem abs_heldLength_sub_volume_le {tolerance first : ℝ} {cuts : List ℝ} (hcuts : (first :: cuts).Pairwise (· < ·))
    (hnear : ∀ t ∈ frontier I, ∃ k ∈ first :: cuts, |t - k| ≤ tolerance) :
    |heldLength I first cuts - volume.real I| ≤ 2 * tolerance := by
  obtain ⟨p, hp, hlower⟩ := hnear _ (csInf_mem_frontier hne hbelow habove)
  obtain ⟨q, hq, hupper⟩ := hnear _ (csSup_mem_frontier hne hbelow habove)
  rw [abs_sub_comm] at hlower hupper
  calc |heldLength I first cuts - volume.real I|
      = |heldLength I first cuts - (sSup I - sInf I)| := by rw [volume_real_of_ordConnected hI hne hbelow habove]
    _ ≤ |p - sInf I| + |q - sSup I| := abs_heldLength_sub_sub_le hI hne hbelow habove hcuts hp hq
    _ ≤ tolerance + tolerance := add_le_add hlower hupper
    _ = 2 * tolerance := (two_mul tolerance).symm

end Interval

/-! ## The parameters of a track in a cell -/

/-- The parameters between zero and one at which a track is in the cell with two bins. -/
def inCell (segmentation : Segmentation ℝ) (start delta : Vec3 ℝ) (i j : Nat) : Set ℝ :=
  {u | u ∈ Set.Icc 0 1 ∧ (start + delta * u).x ∈ segmentation.x.interval i ∧ (start + delta * u).y ∈ segmentation.y.interval j}

section InCell

/-- A coordinate is in a bin between any two parameters at which it is. -/
theorem ordConnected_preimage (b : Binning ℝ) (i : Nat) (origin extent : ℝ) :
    (Set.preimage (fun u => origin + extent * u) (b.interval i)).OrdConnected := by
  rcases le_total 0 extent with hextent | hextent
  · exact (b.ordConnected_interval i).preimage_mono fun u v h =>
      (add_le_add_iff_left origin).2 (mul_le_mul_of_nonneg_left h hextent)
  · exact (b.ordConnected_interval i).preimage_anti fun u v h =>
      (add_le_add_iff_left origin).2 (mul_le_mul_of_nonpos_left h hextent)

/-- A coordinate enters and leaves a bin at the crossing of an edge. -/
theorem crossesAt_of_mem_frontier {s : PlanarStepper ℝ} {b : Binning ℝ} (hb : b.Regular) {i : Nat} (hi : i < b.bins)
    {origin extent u : ℝ} (hextent : extent = 0 ∨ s.tolerance ≤ |extent|)
    (hu : u ∈ frontier (Set.preimage (fun u => origin + extent * u) (b.interval i))) :
    s.CrossesAt origin extent b.edges.toList u := by
  rcases hextent with rfl | hextent
  · -- A coordinate that rests is always in the bin or never.
    have hrest : (fun u : ℝ => origin + 0 * u) = fun _ => origin := by
      funext u
      rw [zero_mul, add_zero]
    rw [hrest] at hu
    by_cases h : origin ∈ b.interval i
    · rw [Set.preimage_const_of_mem h, frontier_univ] at hu
      exact absurd hu (Set.notMem_empty u)
    · rw [Set.preimage_const_of_notMem h, frontier_empty] at hu
      exact absurd hu (Set.notMem_empty u)
  · refine ⟨hextent, ?_⟩
    have hcontinuous : Continuous fun u : ℝ => origin + extent * u := by fun_prop
    have hedge : origin + extent * u = (b.edgesOf i).1 ∨ origin + extent * u = (b.edgesOf i).2 :=
      Binning.frontier_interval hb hi (hcontinuous.frontier_preimage_subset _ hu)
    rcases hedge with hedge | hedge
    · rw [hedge]
      exact (b.edgesOf_mem i).1
    · rw [hedge]
      exact (b.edgesOf_mem i).2

variable (segmentation : Segmentation ℝ) (start delta : Vec3 ℝ) (i j : Nat)

theorem inCell_eq : inCell segmentation start delta i j = Set.Icc 0 1 ∩
    (Set.preimage (fun u => start.x + delta.x * u) (segmentation.x.interval i) ∩
      Set.preimage (fun u => start.y + delta.y * u) (segmentation.y.interval j)) := by
  ext u
  simp only [inCell, Vec3.add_components, Vec3.mul_components, Set.mem_ofPred_eq, Set.mem_inter_iff, Set.mem_preimage]

theorem inCell_subset : inCell segmentation start delta i j ⊆ Set.Icc 0 1 := fun _ hu => hu.1

theorem ordConnected_inCell : (inCell segmentation start delta i j).OrdConnected := by
  rw [inCell_eq]
  exact Set.ordConnected_Icc.inter ((ordConnected_preimage _ i _ _).inter (ordConnected_preimage _ j _ _))

variable {segmentation start delta i j}

/-- A track enters and leaves a cell at one of its own ends or at the crossing of an edge. -/
theorem crossesAt_of_mem_frontier_inCell {s : PlanarStepper ℝ} (hx : segmentation.x.Regular) (hy : segmentation.y.Regular)
    (hi : i < segmentation.x.bins) (hj : j < segmentation.y.bins) (hdx : delta.x = 0 ∨ s.tolerance ≤ |delta.x|)
    (hdy : delta.y = 0 ∨ s.tolerance ≤ |delta.y|) {u : ℝ} (hu : u ∈ frontier (inCell segmentation start delta i j)) :
    u = 0 ∨ u = 1 ∨ s.CrossesAt start.x delta.x segmentation.x.edges.toList u ∨
      s.CrossesAt start.y delta.y segmentation.y.edges.toList u := by
  rw [inCell_eq] at hu
  rcases frontier_inter_subset _ _ hu with ⟨hend, -⟩ | ⟨-, hedge⟩
  · rw [frontier_Icc zero_le_one] at hend
    rcases hend with rfl | hend
    · exact Or.inl rfl
    · exact Or.inr (Or.inl hend)
  · rcases frontier_inter_subset _ _ hedge with ⟨hedge, -⟩ | ⟨-, hedge⟩
    · exact Or.inr (Or.inr (Or.inl (crossesAt_of_mem_frontier hx hi hdx hedge)))
    · exact Or.inr (Or.inr (Or.inr (crossesAt_of_mem_frontier hy hj hdy hedge)))

/-- The pieces whose middles are in a cell are as long as the track in it, up to twice the tolerance. -/
theorem abs_heldLength_inCell_sub_le {s : PlanarStepper ℝ} (h0 : 0 < s.tolerance) (h1 : s.tolerance < 1)
    (hx : segmentation.x.Regular) (hy : segmentation.y.Regular) (hi : i < segmentation.x.bins)
    (hj : j < segmentation.y.bins) (hdx : delta.x = 0 ∨ s.tolerance ≤ |delta.x|)
    (hdy : delta.y = 0 ∨ s.tolerance ≤ |delta.y|) :
    |heldLength (inCell segmentation start delta i j) 0
          (s.cuts start delta segmentation.x.edges.toList segmentation.y.edges.toList) -
        volume.real (inCell segmentation start delta i j)| ≤ 2 * s.tolerance := by
  have hsub := inCell_subset segmentation start delta i j
  rcases (inCell segmentation start delta i j).eq_empty_or_nonempty with hempty | hne
  · have hnothing : heldLength ∅ 0 (s.cuts start delta segmentation.x.edges.toList segmentation.y.edges.toList) = 0 := by
      simpa using heldLength_sdiff (D := ∅) (E := ∅) subset_rfl
    rw [hempty, hnothing, measureReal_empty, sub_zero, abs_zero]
    exact (mul_pos two_pos h0).le
  · refine abs_heldLength_sub_volume_le (ordConnected_inCell _ _ _ _ _) hne (bddBelow_Icc.mono hsub)
      (bddAbove_Icc.mono hsub) (ascending_cuts h0 start delta _ _ h1).pairwise fun t ht => ?_
    have hmem : t ∈ Set.Icc (0 : ℝ) 1 := closure_minimal hsub isClosed_Icc (frontier_subset_closure ht)
    exact exists_cut_near h0 start delta _ _ h1 hmem.1 hmem.2 (crossesAt_of_mem_frontier_inCell hx hy hi hj hdx hdy ht)

end InCell

/-! ## Steps in a cell -/

section Along

variable (segmentation : Segmentation ℝ) (start delta : Vec3 ℝ)

/-- The bins that a track has at a parameter. -/
noncomputable def channelsAt (u : ℝ) : Nat × Nat :=
  (segmentation.x.bin (start + delta * u).x, segmentation.y.bin (start + delta * u).y)

theorem channels_piece_eq_channelsAt (length before after : ℝ) :
    channels (piece segmentation start delta length before after) =
      channelsAt segmentation start delta ((before + after) / 2) := by
  rw [channels_piece, channelsAt, (Vec3.add_components _ _).1, (Vec3.mul_components _ _).1, (Vec3.add_components _ _).2.1,
    (Vec3.mul_components _ _).2.1]

/-- The pieces with two bins are those whose middles have them. -/
theorem sum_length_filter_piecesFrom (c : Nat × Nat) (length first : ℝ) (cuts : List ℝ) :
    (((piecesFrom segmentation start delta length first cuts).filter ((fun d => decide (d = c)) ∘ channels)).map
        Step.length).sum = heldLength {u | channelsAt segmentation start delta u = c} first cuts * length := by
  induction cuts generalizing first with
  | nil => exact (zero_mul length).symm
  | cons next cuts ih =>
    have hchannels := channels_piece_eq_channelsAt segmentation start delta length first next
    have hlength : (piece segmentation start delta length first next).length = (next - first) * length := rfl
    rw [piecesFrom_cons, List.filter_cons, Function.comp_apply, hchannels]
    by_cases h : channelsAt segmentation start delta ((first + next) / 2) = c
    · rw [if_pos (decide_eq_true h), List.map_cons, List.sum_cons, ih next, hlength,
        heldLength_cons_of_mem (I := {u | channelsAt segmentation start delta u = c}) h, add_mul]
    · rw [if_neg (by simpa using h), ih next,
        heldLength_cons_of_notMem (I := {u | channelsAt segmentation start delta u = c}) h]

theorem sum_length_filter_stepsAlong (s : PlanarStepper ℝ) (i j : Nat) :
    (((s.stepsAlong segmentation start delta).filter fun t => t.cell.channel0 = i ∧ t.cell.channel1 = j).map
        Step.length).sum =
      heldLength {u | channelsAt segmentation start delta u = (i, j)} 0
        (s.cuts start delta segmentation.x.edges.toList segmentation.y.edges.toList) * delta.length := by
  have hfilter : (fun t : Step ℝ => decide (t.cell.channel0 = i ∧ t.cell.channel1 = j)) =
      (fun d => decide (d = (i, j))) ∘ channels := by
    funext t
    exact decide_eq_decide.2 Prod.mk_inj.symm
  rw [hfilter, stepsAlong, sum_length_filter_join (fun d => decide (d = (i, j))), pieces_eq, sum_length_filter_piecesFrom]

end Along

section Steps

variable {s : PlanarStepper ℝ} {module : ReadoutModule ℝ} {position : Vec2 ℝ} {direction start delta : Vec3 ℝ}

/-- The clipped track stays above the rectangle, as the track through the sensor has no neglected extent either. -/
theorem mem_range_of_clippedTrack? (h0 : 0 < s.tolerance)
    (htrack : s.clippedTrack? module position direction = some (start, delta))
    (hdx : delta.x = 0 ∨ s.tolerance ≤ |delta.x|) (hdy : delta.y = 0 ∨ s.tolerance ≤ |delta.y|) {u : ℝ}
    (hu : u ∈ Set.Icc (0 : ℝ) 1) :
    (start + delta * u).x ∈ Set.Icc module.segmentation.x.lower module.segmentation.x.upper ∧
      (start + delta * u).y ∈ Set.Icc module.segmentation.y.lower module.segmentation.y.upper := by
  obtain ⟨-, a, b, hclip, hstart, hdelta⟩ := (clippedTrack?_eq_some_iff h0).1 htrack
  obtain ⟨ha, hb, hlong⟩ := of_clip_eq_some hclip
  have hpos : 0 < b - a := h0.trans hlong
  have hextent : ∀ v : ℝ, v * (b - a) = 0 ∨ s.tolerance ≤ |v * (b - a)| → v = 0 ∨ s.tolerance ≤ |v| := by
    intro v hv
    rcases hv with hv | hv
    · exact Or.inl ((mul_eq_zero.1 hv).resolve_right hpos.ne')
    · refine Or.inr (hv.trans ?_)
      rw [abs_mul, abs_of_pos hpos]
      exact mul_le_of_le_one_right (abs_nonneg v) (by linarith)
  rw [hdelta, (Vec3.mul_components _ _).1] at hdx
  rw [hdelta, (Vec3.mul_components _ _).2.1] at hdy
  have hchord := ((clip_eq_some_iff h0 (hextent _ hdx) (hextent _ hdy)).1 hclip).1
  have hmem : a + (b - a) * u ∈ Set.Icc a b := by
    have hle := mul_le_of_le_one_right hpos.le hu.2
    exact ⟨by linarith [mul_nonneg hpos.le hu.1], by linarith⟩
  rw [← hchord] at hmem
  have hpoint : start + delta * u =
      module.entryPoint position direction + module.way direction * (a + (b - a) * u) := by
    rw [hstart, hdelta]
    apply Vec3.ext <;> simp only [Vec3.add_components, Vec3.mul_components] <;> ring
  rw [hpoint]
  exact hmem.2

/-- On the track, the cell is the one whose bins the lookup gives. -/
theorem channelsAt_eq_iff (h0 : 0 < s.tolerance)
    (htrack : s.clippedTrack? module position direction = some (start, delta))
    (hdx : delta.x = 0 ∨ s.tolerance ≤ |delta.x|) (hdy : delta.y = 0 ∨ s.tolerance ≤ |delta.y|)
    (hx : module.segmentation.x.Regular) (hxclamp : module.segmentation.x.overflow = .clamp)
    (hy : module.segmentation.y.Regular) (hyclamp : module.segmentation.y.overflow = .clamp) {i j : Nat}
    (hi : i < module.segmentation.x.bins) (hj : j < module.segmentation.y.bins) {u : ℝ} (hu : u ∈ Set.Icc (0 : ℝ) 1) :
    channelsAt module.segmentation start delta u = (i, j) ↔ u ∈ inCell module.segmentation start delta i j := by
  obtain ⟨hrangex, hrangey⟩ := mem_range_of_clippedTrack? h0 htrack hdx hdy hu
  rw [channelsAt, Prod.mk_inj, Binning.bin_eq_iff hx hi hxclamp hrangex.1 hrangex.2,
    Binning.bin_eq_iff hy hj hyclamp hrangey.1 hrangey.2, inCell, Set.mem_ofPred_eq, and_iff_right hu]

end Steps

end PlanarStepper

/-! ## A track close to a corner -/

namespace quarteredSquare

theorem interval_x_zero : quarteredSquare.segmentation.x.interval 0 = Set.Ico (-1) 0 := by
  have hnext : 0 + 1 ≠ quarteredSquare.segmentation.x.bins := by
    rw [bins_x]
    decide
  have hsize : 0 + 1 < quarteredSquare.segmentation.x.edges.size := by
    rw [← Binning.lt_bins_iff, bins_x]
    exact two_pos
  rw [Binning.interval, if_neg hnext, Binning.edgesOf_eq hsize]
  simp [edges_x]

theorem interval_y_zero : quarteredSquare.segmentation.y.interval 0 = Set.Ico (-1) 0 := rfl

end quarteredSquare

namespace PlanarStepper

/-! ## Lengths in cells -/

/-- Under exact arithmetic, on a module with values outside cut off, a track has steps exactly if a part of it is left after
clipping, and they lead from the beginning of this part to its end. If each of its extents is zero or not neglected, then for
every cell of the grid the steps in the cell are together as long as the part inside it, up to twice the tolerance times the
length of the part. -/
theorem cell_lengths_within_tolerance (s : PlanarStepper ℝ) (module : ReadoutModule ℝ) (position : Vec2 ℝ)
    (direction : Vec3 ℝ) (h0 : 0 < s.tolerance)
    (hx : module.segmentation.x.Constructed) (hxclamp : module.segmentation.x.overflow = .clamp)
    (hy : module.segmentation.y.Constructed) (hyclamp : module.segmentation.y.overflow = .clamp) :
    let steps := s.steps module position direction
    (steps ≠ [] ↔ ∃ track, s.clippedTrack? module position direction = some track) ∧
      ∀ start delta, s.clippedTrack? module position direction = some (start, delta) →
        steps.head?.map Step.entry = some start ∧ steps.getLast?.map Step.exit = some (start + delta) ∧
        ((delta.x = 0 ∨ s.tolerance ≤ |delta.x|) → (delta.y = 0 ∨ s.tolerance ≤ |delta.y|) →
          ∀ i < module.segmentation.x.bins, ∀ j < module.segmentation.y.bins,
            |((steps.filter fun t => t.cell.channel0 = i ∧ t.cell.channel1 = j).map Step.length).sum -
                volume.real (inCell module.segmentation start delta i j) * delta.length| ≤
              2 * s.tolerance * delta.length) := by
  intro steps
  refine ⟨steps_ne_nil_iff h0, fun start delta htrack => ?_⟩
  have h1 := tolerance_lt_one_of_clippedTrack? h0 htrack
  have hsteps : steps = s.stepsAlong module.segmentation start delta := steps_of_clippedTrack?_eq_some htrack
  refine ⟨?_, ?_, fun hdx hdy i hi j hj => ?_⟩
  · rw [hsteps, head?_stepsAlong h0 h1]
  · rw [hsteps, getLast?_stepsAlong h0 h1]
  let cuts := s.cuts start delta module.segmentation.x.edges.toList module.segmentation.y.edges.toList
  let inside := inCell module.segmentation start delta i j
  have hheld : heldLength {u | channelsAt module.segmentation start delta u = (i, j)} 0 cuts = heldLength inside 0 cuts :=
    heldLength_congr (ascending_cuts h0 start delta _ _ h1) (le_one_of_mem_cuts h0 start delta _ _ h1) fun u hu0 hu1 =>
      channelsAt_eq_iff h0 htrack hdx hdy hx.regular hxclamp hy.regular hyclamp hi hj ⟨hu0, hu1⟩
  have herror : |heldLength inside 0 cuts - volume.real inside| ≤ 2 * s.tolerance :=
    abs_heldLength_inCell_sub_le h0 h1 hx.regular hy.regular hi hj hdx hdy
  have hlength : 0 ≤ delta.length := delta.length_nonneg
  calc |((steps.filter fun t => t.cell.channel0 = i ∧ t.cell.channel1 = j).map Step.length).sum -
        volume.real inside * delta.length|
      = |(heldLength inside 0 cuts - volume.real inside) * delta.length| := by
        rw [hsteps, sum_length_filter_stepsAlong, hheld, sub_mul]
    _ = |heldLength inside 0 cuts - volume.real inside| * delta.length := by rw [abs_mul, abs_of_nonneg hlength]
    _ ≤ 2 * s.tolerance * delta.length := mul_le_mul_of_nonneg_right herror hlength

/-- A slanted track crosses the square sensor close to the corner where its cells meet. It leaves the first cell at nine
twentieths of its length, which is three. -/
theorem cell_lengths_within_tolerance_slanted :
    let steps := (⟨1 / 10⟩ : PlanarStepper ℝ).steps quarteredSquare ⟨0, 1 / 20⟩ ⟨2, 1, 2⟩
    steps ≠ [] ∧
      |((steps.filter fun t => t.cell.channel0 = 0 ∧ t.cell.channel1 = 0).map Step.length).sum - 9 / 20 * 3| ≤
        2 * (1 / 10) * 3 := by
  intro steps
  have h0 : (0 : ℝ) < 1 / 10 := by norm_num
  have hinside : inCell quarteredSquare.segmentation ⟨-1, -9 / 20, -1⟩ ⟨2, 1, 2⟩ 0 0 = Set.Ico 0 (9 / 20) := by
    ext u
    simp only [inCell, quarteredSquare.interval_x_zero, quarteredSquare.interval_y_zero, Vec3.add_components,
      Vec3.mul_components, Set.mem_ofPred_eq, Set.mem_Icc, Set.mem_Ico]
    constructor
    · rintro ⟨⟨hu, -⟩, -, -, hy⟩
      exact ⟨hu, by linarith⟩
    · rintro ⟨hu, hu'⟩
      exact ⟨⟨hu, by linarith⟩, ⟨by linarith, by linarith⟩, by linarith, by linarith⟩
  obtain ⟨hiff, hcells⟩ := cell_lengths_within_tolerance ⟨1 / 10⟩ quarteredSquare ⟨0, 1 / 20⟩ ⟨2, 1, 2⟩ h0
    quarteredSquare.constructed_x rfl quarteredSquare.constructed_y rfl
  obtain ⟨-, -, hcells⟩ := hcells _ _ clippedTrack?_slanted
  have hcell := hcells (Or.inr (by norm_num)) (Or.inr (by norm_num)) 0
    (by rw [quarteredSquare.bins_x]; exact two_pos) 0 two_pos
  rw [hinside, Real.volume_real_Ico_of_le (by norm_num), sub_zero, quarteredSquare.length_slanted] at hcell
  exact ⟨hiff.2 ⟨_, clippedTrack?_slanted⟩, hcell⟩

end PlanarStepper

end DetectorReadout
