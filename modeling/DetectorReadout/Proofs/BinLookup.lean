import Mathlib.Data.List.Chain
import Mathlib.Order.Interval.Set.OrdConnected
import Mathlib.Topology.Order.DenselyOrdered
import DetectorReadout.Proofs.ChannelNumbers
import DetectorReadout.Proofs.ExactScalars

/-!
# The bin of a value

Under exact arithmetic, the two ways to look up a bin answer the same question: a value has bin `i` or a later one exactly if
it is not below the lower edge of bin `i` (`Binning.le_bin_iff`). This holds of every binning that can be made, with values
outside cut off, and everything else follows from it: the lookup is monotone (`Binning.bin_mono`), and a value of the range has
bin `i` exactly if it lies between the edges of this bin (`Binning.bin_eq_iff`).
-/

namespace DetectorReadout

namespace Binning

/-- The binnings that can be made: of equal bins or by their edges, with any choice for values outside. -/
inductive Constructed {α : Type} [Scalar α] : Binning α → Prop where
  /-- The range is cut into equal bins. -/
  | ofRange {axis : Axis} {n : Nat} {lower upper : α} {b : Binning α} (h : Binning.ofRange axis n lower upper = .ok b)
    (o : Overflow) : Constructed (b.withOverflow o)
  /-- The edges are given. -/
  | ofEdges {axis : Axis} {edges : List α} {b : Binning α} (h : Binning.ofEdges axis edges = .ok b) (o : Overflow) :
    Constructed (b.withOverflow o)

/-! ## Edges -/

/-- What holds of the edges of every binning that can be made. -/
structure Regular (b : Binning ℝ) : Prop where
  /-- Each edge is below the next. -/
  ascending : b.edges.toList.Pairwise (· < ·)
  /-- Bins that are found by a division are equally wide. -/
  equidistant : b.uniform = true → ∀ i (h : i < b.edges.size), b.edges[i] = b.lower + i * b.step

theorem getElem_uniformEdges {n : Nat} (hn : n ≠ 0) (lower upper : ℝ) {i : Nat}
    (h : i < (uniformEdges n lower upper).size) :
    (uniformEdges n lower upper)[i] = lower + i * ((upper - lower) / n) := by
  unfold uniformEdges at h ⊢
  rw [Array.size_push, Array.size_ofFn] at h
  rw [Array.getElem_push]
  split
  · rw [Array.getElem_ofFn]
    rfl
  · rename_i hlast
    rw [Array.size_ofFn] at hlast
    have hi : i = n := by omega
    rw [hi, mul_div_cancel₀ _ (Nat.cast_ne_zero.2 hn), add_sub_cancel]

/-- Two bins meet in the middle of their range. -/
theorem uniformEdges_two (lower upper : ℝ) : uniformEdges 2 lower upper = #[lower, (lower + upper) / 2, upper] := by
  refine Array.ext (by simp [uniformEdges]) fun i hi hi' => ?_
  rw [getElem_uniformEdges two_ne_zero]
  have hlt : i < 3 := hi'
  obtain rfl | rfl | rfl : i = 0 ∨ i = 1 ∨ i = 2 := by omega
  · simp
  · norm_num
    ring
  · norm_num
    ring

theorem strictlyIncreasing_iff {edges : List ℝ} : strictlyIncreasing edges = true ↔ edges.Pairwise (· < ·) := by
  rw [← List.isChain_iff_pairwise]
  fun_induction strictlyIncreasing edges with
  | case1 u v rest ih => rw [Bool.and_eq_true, decide_eq_true_eq, List.isChain_cons_cons, ih]
  | case2 edges h =>
    match edges, h with
    | [], _ => simp
    | [u], _ => simp
    | u :: v :: rest, h => exact absurd rfl (h u v rest)

/-- The edges do not depend on the choice for values outside. -/
theorem Regular.withOverflow {b : Binning ℝ} (h : b.Regular) (o : Overflow) : (b.withOverflow o).Regular :=
  ⟨h.ascending, h.equidistant⟩

theorem pairwise_uniformEdges {n : Nat} (hn : n ≠ 0) {lower upper : ℝ} (hlt : lower < upper) :
    (uniformEdges n lower upper).toList.Pairwise (· < ·) := by
  have hstep : 0 < (upper - lower) / n := div_pos (sub_pos.2 hlt) (Nat.cast_pos.2 (Nat.pos_of_ne_zero hn))
  rw [List.pairwise_iff_getElem]
  intro i j hi hj hij
  rw [Array.getElem_toList, Array.getElem_toList, getElem_uniformEdges hn, getElem_uniformEdges hn]
  have hij' : (i : ℝ) < j := Nat.cast_lt.2 hij
  exact (add_lt_add_iff_left lower).2 (mul_lt_mul_of_pos_right hij' hstep)

/-- What is accepted as a range of equal bins, and the binning that is made of it. -/
theorem of_ofRange {α : Type} [Scalar α] {axis : Axis} {n : Nat} {lower upper : α} {b : Binning α}
    (h : Binning.ofRange axis n lower upper = .ok b) :
    (n ≠ 0 ∧ lower < upper) ∧ b.axis = axis ∧ b.edges = uniformEdges n lower upper := by
  unfold Binning.ofRange at h
  split at h
  · nomatch h
  rename_i hn
  split at h
  · nomatch h
  rename_i hlt
  cases h
  exact ⟨⟨hn, not_not.1 hlt⟩, rfl, rfl⟩

/-- What is accepted as edges, and the binning that is made of them. -/
theorem of_ofEdges {α : Type} [Scalar α] {axis : Axis} {edges : List α} {b : Binning α}
    (h : Binning.ofEdges axis edges = .ok b) :
    strictlyIncreasing edges = true ∧ b.axis = axis ∧ b.edges.toList = edges ∧ b.uniform = false := by
  unfold Binning.ofEdges at h
  split at h
  · nomatch h
  split at h
  · nomatch h
  rename_i hincreasing
  cases h
  exact ⟨not_not.1 hincreasing, rfl, rfl, rfl⟩

section UniformEdges

variable {b : Binning ℝ} {n : Nat} {lower upper : ℝ} (hn : n ≠ 0) (hedges : b.edges = uniformEdges n lower upper)

include hedges

theorem bins_of_uniformEdges : b.bins = n := by
  rw [bins, hedges]
  simp [uniformEdges]

include hn

theorem lower_of_uniformEdges : b.lower = lower := by
  simp only [Binning.lower, hedges]
  rw [getElem_uniformEdges hn, Nat.cast_zero, zero_mul, add_zero]

theorem upper_of_uniformEdges : b.upper = upper := by
  simp only [Binning.upper, hedges, bins_of_uniformEdges hedges]
  rw [getElem_uniformEdges hn, mul_div_cancel₀ _ (Nat.cast_ne_zero.2 hn), add_sub_cancel]

theorem getElem_edges_of_uniformEdges {i : Nat} (hi : i < b.edges.size) : b.edges[i] = lower + i * ((upper - lower) / n) := by
  simp only [hedges]
  exact getElem_uniformEdges hn lower upper (hedges ▸ hi)

end UniformEdges

theorem regular_of_ofRange {axis : Axis} {n : Nat} {lower upper : ℝ} {b : Binning ℝ}
    (h : Binning.ofRange axis n lower upper = .ok b) : b.Regular := by
  obtain ⟨⟨hn, hlt⟩, -, hedges⟩ := of_ofRange h
  refine ⟨hedges ▸ pairwise_uniformEdges hn hlt, fun _ i hi => ?_⟩
  rw [step, bins_of_uniformEdges hedges, lower_of_uniformEdges hn hedges, upper_of_uniformEdges hn hedges, Scalar.ofNat_real]
  exact getElem_edges_of_uniformEdges hn hedges hi

theorem regular_of_ofEdges {axis : Axis} {edges : List ℝ} {b : Binning ℝ} (h : Binning.ofEdges axis edges = .ok b) :
    b.Regular := by
  obtain ⟨hincreasing, -, hedges, huniform⟩ := of_ofEdges h
  refine ⟨hedges ▸ strictlyIncreasing_iff.1 hincreasing, fun hdivides => ?_⟩
  nomatch huniform.symm.trans hdivides

theorem Constructed.regular {b : Binning ℝ} (h : b.Constructed) : b.Regular := by
  cases h with
  | ofRange h o => exact (regular_of_ofRange h).withOverflow o
  | ofEdges h o => exact (regular_of_ofEdges h).withOverflow o

/-! ## Bins -/

section Bins

variable {b : Binning ℝ}

theorem lt_bins_iff {i : Nat} : i < b.bins ↔ i + 1 < b.edges.size := by
  have := b.two_le_size
  unfold bins
  omega

theorem edgesOf_eq {i : Nat} (hi : i + 1 < b.edges.size) : b.edgesOf i = (b.edges[i], b.edges[i + 1]) := by
  have hlast := lt_bins_iff.2 hi
  have hmin : min i (b.bins - 1) = i := by omega
  simp only [edgesOf, hmin]

/-- The upper edge of a bin is the lower one of the next. -/
theorem edgesOf_snd {i : Nat} (hi : i + 1 < b.bins) : (b.edgesOf i).2 = (b.edgesOf (i + 1)).1 := by
  have hsize := lt_bins_iff.1 hi
  rw [edgesOf_eq hsize, edgesOf_eq (Nat.lt_of_succ_lt hsize)]

theorem edgesOf_zero_fst : (b.edgesOf 0).1 = b.lower := by
  rw [edgesOf_eq (lt_bins_iff.1 b.bins_pos)]
  rfl

theorem edgesOf_last_snd {i : Nat} (hi : i + 1 = b.bins) : (b.edgesOf i).2 = b.upper := by
  have hsize : i + 1 < b.edges.size := lt_bins_iff.1 (by omega)
  rw [edgesOf_eq hsize]
  simp only [hi]
  rfl

/-- The edges of a bin are among the edges of the binning. -/
theorem edgesOf_mem (i : Nat) : (b.edgesOf i).1 ∈ b.edges.toList ∧ (b.edgesOf i).2 ∈ b.edges.toList :=
  ⟨Array.getElem_mem_toList _, Array.getElem_mem_toList _⟩

variable (hb : b.Regular)

include hb

theorem Regular.edgesOf_lt {i : Nat} (hi : i < b.bins) : (b.edgesOf i).1 < (b.edgesOf i).2 := by
  have hsize := lt_bins_iff.1 hi
  rw [edgesOf_eq hsize]
  have h := List.pairwise_iff_getElem.1 hb.ascending i (i + 1) (by simpa using Nat.lt_of_succ_lt hsize) (by simpa using hsize)
    (Nat.lt_succ_self i)
  simpa using h

theorem Regular.lower_lt_upper : b.lower < b.upper := by
  have hsize : 0 < b.edges.toList.length := by simpa using Nat.lt_of_lt_of_le Nat.two_pos b.two_le_size
  have hlast : b.bins < b.edges.toList.length := by
    have := b.two_le_size
    rw [Array.length_toList]
    unfold bins
    omega
  exact List.pairwise_iff_getElem.1 hb.ascending 0 b.bins hsize hlast b.bins_pos

theorem Regular.step_pos : 0 < b.step :=
  div_pos (sub_pos.2 hb.lower_lt_upper) (Nat.cast_pos.2 b.bins_pos)

end Bins

/-! ## Lookup -/

/-- In an ascending list, an element is not above a value exactly if it comes before the first that is. -/
theorem lt_length_takeWhile_iff {l : List ℝ} (hl : l.Pairwise (· < ·)) (v : ℝ) {j : Nat} (hj : j < l.length) :
    j < (l.takeWhile (· ≤ v)).length ↔ l[j] ≤ v := by
  induction l generalizing j with
  | nil => exact absurd hj (Nat.not_lt_zero j)
  | cons a l ih =>
    obtain ⟨ha, hl'⟩ := List.pairwise_cons.1 hl
    rw [List.takeWhile_cons]
    cases j with
    | zero => by_cases h : a ≤ v <;> simp [h]
    | succ j =>
      have hj' : j < l.length := Nat.lt_of_succ_lt_succ hj
      by_cases h : a ≤ v
      · simpa [h] using ih hl' hj'
      · have hfar : ¬ l[j] ≤ v := fun hle => h ((ha _ (List.getElem_mem hj')).le.trans hle)
        simp [h, hfar]

section Lookup

variable {b : Binning ℝ} (hb : b.Regular) (v : ℝ) {j : Nat}

include hb

theorem le_binBySearch_iff (hpos : 0 < j) (hj : j < b.bins) : j ≤ b.binBySearch v ↔ (b.edgesOf j).1 ≤ v := by
  have hsize := lt_bins_iff.1 hj
  have hlength : j < b.edges.toList.length := by simpa using Nat.lt_of_succ_lt hsize
  have hcount := lt_length_takeWhile_iff hb.ascending v hlength
  rw [Array.getElem_toList] at hcount
  rw [edgesOf_eq hsize, ← hcount]
  unfold binBySearch
  omega

theorem le_binByDivision_iff (huniform : b.uniform = true) (hpos : 0 < j) (hj : j < b.bins) :
    j ≤ b.binByDivision v ↔ (b.edgesOf j).1 ≤ v := by
  have hsize := lt_bins_iff.1 hj
  have hfloor : j ≤ ⌊(v - b.lower) / b.step⌋₊ ↔ b.lower + j * b.step ≤ v := by
    rw [Nat.le_floor_iff' hpos.ne', le_div_iff₀ hb.step_pos, le_sub_iff_add_le']
  rw [edgesOf_eq hsize, hb.equidistant huniform j (Nat.lt_of_succ_lt hsize), ← hfloor]
  unfold binByDivision
  rw [Scalar.toNat_real]
  omega

variable (hclamp : b.overflow = .clamp)

include hclamp

/-- A value has bin `j` or a later one exactly if it is not below the lower edge of bin `j`. -/
theorem le_bin_iff (hpos : 0 < j) (hj : j < b.bins) : j ≤ b.bin v ↔ (b.edgesOf j).1 ≤ v := by
  have hlookup : b.lookupValue v = v := by rw [lookupValue, hclamp]
  unfold bin
  rw [hlookup]
  split
  · rename_i huniform
    exact le_binByDivision_iff hb v huniform hpos hj
  · exact le_binBySearch_iff hb v hpos hj

variable {v} in
theorem bin_mono {w : ℝ} (h : v ≤ w) : b.bin v ≤ b.bin w := by
  rcases Nat.eq_zero_or_pos (b.bin v) with hzero | hpos
  · rw [hzero]
    exact Nat.zero_le _
  · have hreach := (le_bin_iff hb v hclamp hpos (b.bin_lt v)).1 le_rfl
    exact (le_bin_iff hb w hclamp hpos (b.bin_lt v)).2 (hreach.trans h)

end Lookup

/-- The values of the range that belong to bin `i`: those between its edges, with the lower edge, and with the upper one if
there is no next bin. -/
def interval (b : Binning ℝ) (i : Nat) : Set ℝ :=
  if i + 1 = b.bins then Set.Icc (b.edgesOf i).1 (b.edgesOf i).2 else Set.Ico (b.edgesOf i).1 (b.edgesOf i).2

theorem ordConnected_interval (b : Binning ℝ) (i : Nat) : (b.interval i).OrdConnected := by
  unfold interval
  split
  · exact Set.ordConnected_Icc
  · exact Set.ordConnected_Ico

section Interval

variable {b : Binning ℝ} (hb : b.Regular) {i : Nat} (hi : i < b.bins)

include hb hi

/-- The frontier of a bin is made of its edges. -/
theorem frontier_interval : frontier (b.interval i) ⊆ {(b.edgesOf i).1, (b.edgesOf i).2} := by
  have hlt := hb.edgesOf_lt hi
  unfold interval
  split
  · rw [frontier_Icc hlt.le]
  · rw [frontier_Ico hlt]

/-- A value of the range has bin `i` exactly if it belongs to it. -/
theorem bin_eq_iff (hclamp : b.overflow = .clamp) {v : ℝ} (hlower : b.lower ≤ v) (hupper : v ≤ b.upper) :
    b.bin v = i ↔ v ∈ b.interval i := by
  have hlow : i ≤ b.bin v ↔ (b.edgesOf i).1 ≤ v := by
    rcases Nat.eq_zero_or_pos i with rfl | hpos
    · rw [edgesOf_zero_fst]
      exact iff_of_true (Nat.zero_le _) hlower
    · exact le_bin_iff hb v hclamp hpos hi
  unfold interval
  split
  · rename_i hlast
    rw [Set.mem_Icc, edgesOf_last_snd hlast, ← hlow, and_iff_left hupper]
    have := b.bin_lt v
    omega
  · rename_i hlast
    have hhigh : i + 1 ≤ b.bin v ↔ (b.edgesOf i).2 ≤ v := by
      rw [edgesOf_snd (by omega)]
      exact le_bin_iff hb v hclamp i.succ_pos (by omega)
    rw [Set.mem_Ico, ← hlow, ← not_le, ← hhigh]
    omega

end Interval

end Binning

end DetectorReadout
