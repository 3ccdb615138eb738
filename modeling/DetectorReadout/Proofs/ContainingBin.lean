import DetectorReadout.Proofs.BinLookup

/-!
# The bin that holds a value

Under exact arithmetic, every value of the range lies in one bin only, between its lower edge and the one above, and the lookup
finds this bin (`Binning.holds_iff`), by a division as well as by a search. What lies outside the range goes to the bin at its
end, or, if the range is a circle, to the bin of the point that it stands for. So the lookup depends on nothing but the edges and
the choice for values outside (`Binning.bin_finds_holder`).
-/

namespace DetectorReadout

namespace Binning

/-- A bin holds a value that is not below its lower edge and is below its upper one. -/
def Holds (b : Binning ℝ) (i : Nat) (v : ℝ) : Prop :=
  ∃ low high, b.edges[i]? = some low ∧ b.edges[i + 1]? = some high ∧ low ≤ v ∧ v < high

/-- The point of the range that a value stands for if the range is a circle: what is left of its distance from the lower end
after going round as often as possible. -/
noncomputable def onCircle (b : Binning ℝ) (v : ℝ) : ℝ :=
  b.lower + Int.fract ((v - b.lower) / (b.upper - b.lower)) * (b.upper - b.lower)

/-! ## Values of the range -/

section Range

variable {b : Binning ℝ} {i : Nat} {v : ℝ}

theorem holds_iff_edgesOf : b.Holds i v ↔ i < b.bins ∧ (b.edgesOf i).1 ≤ v ∧ v < (b.edgesOf i).2 := by
  rw [lt_bins_iff]
  constructor
  · rintro ⟨low, high, hlow, hhigh, hv⟩
    obtain ⟨h, rfl⟩ := Array.getElem?_eq_some_iff.1 hhigh
    obtain ⟨_, rfl⟩ := Array.getElem?_eq_some_iff.1 hlow
    rw [edgesOf_eq h]
    exact ⟨h, hv⟩
  · rintro ⟨h, hv⟩
    rw [edgesOf_eq h] at hv
    exact ⟨_, _, Array.getElem?_eq_getElem _, Array.getElem?_eq_getElem h, hv⟩

theorem head?_edges : b.edges.toList.head? = some b.lower := by
  rw [List.head?_eq_getElem?, Array.getElem?_toList]
  exact Array.getElem?_eq_getElem _

theorem getLast?_edges : b.edges.toList.getLast? = some b.upper := by
  rw [List.getLast?_eq_getElem?, Array.getElem?_toList, Array.length_toList]
  exact Array.getElem?_eq_getElem _

variable (hb : b.Regular)

include hb

theorem Regular.getElem_mono {j : Nat} (hij : i ≤ j) (hj : j < b.edges.size) : b.edges[i] ≤ b.edges[j] := by
  rcases hij.eq_or_lt with rfl | hlt
  · exact le_rfl
  · have h := List.pairwise_iff_getElem.1 hb.ascending i j (by simpa using hlt.trans hj) (by simpa using hj) hlt
    simpa using h.le

/-- A bin holds values of the range only. -/
theorem Holds.mem_range (h : b.Holds i v) : b.lower ≤ v ∧ v < b.upper := by
  obtain ⟨hi, hlower, hupper⟩ := holds_iff_edgesOf.1 h
  rw [edgesOf_eq (lt_bins_iff.1 hi)] at hlower hupper
  exact ⟨(hb.getElem_mono (Nat.zero_le i) _).trans hlower, hupper.trans_le (hb.getElem_mono hi _)⟩

variable (hclamp : b.overflow = .clamp)

include hclamp

/-- Every value of the range is held by one bin, and the lookup finds it. -/
theorem holds_iff (hlower : b.lower ≤ v) (hupper : v < b.upper) : b.Holds i v ↔ i = b.bin v := by
  have hinterval : i < b.bins → (b.Holds i v ↔ v ∈ b.interval i) := by
    intro hi
    rw [holds_iff_edgesOf, and_iff_right hi]
    unfold interval
    split
    · rename_i hlast
      rw [Set.mem_Icc, edgesOf_last_snd hlast, and_iff_left hupper, and_iff_left hupper.le]
    · rfl
  constructor
  · intro h
    have hi := (holds_iff_edgesOf.1 h).1
    exact ((bin_eq_iff hb hi hclamp hlower hupper.le).2 ((hinterval hi).1 h)).symm
  · rintro rfl
    exact (hinterval (b.bin_lt v)).2 ((bin_eq_iff hb (b.bin_lt v) hclamp hlower hupper.le).1 rfl)

theorem bin_eq_of_holds (h : b.Holds i v) : b.bin v = i := by
  obtain ⟨hlower, hupper⟩ := h.mem_range hb
  exact ((holds_iff hb hclamp hlower hupper).1 h).symm

/-! ## Values outside -/

theorem bin_of_lt_lower (h : v < b.lower) : b.bin v = 0 := by
  have hfirst : b.Holds 0 b.lower := by
    have hlt := hb.edgesOf_lt b.bins_pos
    rw [holds_iff_edgesOf]
    rw [edgesOf_zero_fst] at hlt ⊢
    exact ⟨b.bins_pos, le_rfl, hlt⟩
  have hmono := bin_mono hb hclamp h.le
  rw [bin_eq_of_holds hb hclamp hfirst] at hmono
  exact Nat.le_zero.1 hmono

theorem bin_of_upper_le (h : b.upper ≤ v) : b.bin v + 1 = b.bins := by
  have hpos : b.bins - 1 < b.bins := Nat.sub_lt b.bins_pos Nat.one_pos
  have hlast : b.bins - 1 + 1 = b.bins := Nat.succ_pred_eq_of_pos b.bins_pos
  have hend : b.bin b.upper = b.bins - 1 := by
    have hlt := hb.edgesOf_lt hpos
    rw [edgesOf_last_snd hlast] at hlt
    rw [bin_eq_iff hb hpos hclamp hb.lower_lt_upper.le le_rfl, interval, if_pos hlast, edgesOf_last_snd hlast]
    exact ⟨hlt.le, le_rfl⟩
  have hmono := bin_mono hb hclamp h
  have hlt := b.bin_lt v
  omega

end Range

/-! ## A range that is a circle -/

section Circle

variable {b : Binning ℝ}

/-- The lookup goes on from the point of the range as if values outside were cut off. -/
theorem bin_eq_bin_lookupValue (v : ℝ) : b.bin v = (b.withOverflow .clamp).bin (b.lookupValue v) := rfl

variable (hb : b.Regular)

include hb

theorem lookupValue_of_wrap (hwrap : b.overflow = .wrap) (v : ℝ) : b.lookupValue v = b.onCircle v := by
  rw [lookupValue, hwrap]
  exact congrArg (b.lower + ·) (Scalar.modulo_real _ (sub_pos.2 hb.lower_lt_upper))

theorem onCircle_mem (v : ℝ) : b.lower ≤ b.onCircle v ∧ b.onCircle v < b.upper := by
  have hpos : 0 < b.upper - b.lower := sub_pos.2 hb.lower_lt_upper
  have hnonneg := mul_nonneg (Int.fract_nonneg ((v - b.lower) / (b.upper - b.lower))) hpos.le
  have hlt := mul_lt_mul_of_pos_right (Int.fract_lt_one ((v - b.lower) / (b.upper - b.lower))) hpos
  unfold onCircle
  constructor <;> linarith

/-- Going round the circle leads back to the same point. -/
theorem onCircle_add_mul (v : ℝ) (k : ℤ) : b.onCircle (v + k * (b.upper - b.lower)) = b.onCircle v := by
  have hpos : b.upper - b.lower ≠ 0 := (sub_pos.2 hb.lower_lt_upper).ne'
  have hturn : (v + k * (b.upper - b.lower) - b.lower) / (b.upper - b.lower) =
      (v - b.lower) / (b.upper - b.lower) + k := by
    field_simp
    ring
  rw [onCircle, onCircle, hturn, Int.fract_add_intCast]

/-- A value of the range stands for itself. -/
theorem onCircle_of_mem_range {v : ℝ} (hlower : b.lower ≤ v) (hupper : v < b.upper) : b.onCircle v = v := by
  have hpos : 0 < b.upper - b.lower := sub_pos.2 hb.lower_lt_upper
  have hfract : Int.fract ((v - b.lower) / (b.upper - b.lower)) = (v - b.lower) / (b.upper - b.lower) := by
    rw [Int.fract_eq_self]
    exact ⟨div_nonneg (sub_nonneg.2 hlower) hpos.le, (div_lt_one hpos).2 (sub_lt_sub_right hupper _)⟩
  rw [onCircle, hfract, div_mul_cancel₀ _ hpos.ne', add_sub_cancel]

end Circle

/-! ## With either choice for values outside -/

section MemRange

variable {b : Binning ℝ} (hb : b.Regular) {i : Nat}

include hb

/-- A value of the range is looked up as it is. -/
theorem lookupValue_of_mem_range {v : ℝ} (hlower : b.lower ≤ v) (hupper : v < b.upper) : b.lookupValue v = v := by
  cases hoverflow : b.overflow with
  | clamp => rw [lookupValue, hoverflow]
  | wrap => rw [lookupValue_of_wrap hb hoverflow, onCircle_of_mem_range hb hlower hupper]

/-- A value of the range is held by the bin that the lookup finds, and by no other. -/
theorem holds_iff_of_mem_range {v : ℝ} (hlower : b.lower ≤ v) (hupper : v < b.upper) : b.Holds i v ↔ i = b.bin v := by
  rw [bin_eq_bin_lookupValue, lookupValue_of_mem_range hb hlower hupper]
  exact holds_iff (hb.withOverflow .clamp) rfl hlower hupper

/-- A bin holds its middle. -/
theorem holds_center (hi : i < b.bins) : b.Holds i (b.center i) := by
  have hlt := hb.edgesOf_lt hi
  refine holds_iff_edgesOf.2 ⟨hi, ?_⟩
  unfold center
  norm_num
  constructor <;> linarith

/-- The middle of a bin belongs to it. -/
theorem bin_center (hi : i < b.bins) : b.bin (b.center i) = i := by
  obtain ⟨hlower, hupper⟩ := (holds_center hb hi).mem_range hb
  exact ((holds_iff_of_mem_range hb hlower hupper).1 (holds_center hb hi)).symm

end MemRange

/-! ## The edges decide -/

section Congr

variable {b c : Binning ℝ} (hedges : c.edges = b.edges)

include hedges

theorem ends_congr : c.bins = b.bins ∧ c.lower = b.lower ∧ c.upper = b.upper := by
  cases b
  cases c
  cases hedges
  exact ⟨rfl, rfl, rfl⟩

theorem lookupValue_congr (hoverflow : c.overflow = b.overflow) (v : ℝ) : c.lookupValue v = b.lookupValue v := by
  obtain ⟨-, hlower, hupper⟩ := ends_congr hedges
  rw [lookupValue, lookupValue, hoverflow, hlower, hupper]

theorem bin_le_of_edges_eq (hb : b.Regular) (hc : c.Regular) (hbclamp : b.overflow = .clamp) (hcclamp : c.overflow = .clamp)
    (v : ℝ) : c.bin v ≤ b.bin v := by
  have hbins := (ends_congr hedges).1
  rcases Nat.eq_zero_or_pos (c.bin v) with hzero | hpos
  · rw [hzero]
    exact Nat.zero_le _
  · have hlt := c.bin_lt v
    have hreach := (le_bin_iff hc v hcclamp hpos hlt).1 le_rfl
    refine (le_bin_iff hb v hbclamp hpos (hbins ▸ hlt)).2 ?_
    rw [edgesOf_eq (lt_bins_iff.1 hlt)] at hreach
    rw [edgesOf_eq (lt_bins_iff.1 (hbins ▸ hlt))]
    simpa only [hedges] using hreach

/-- Binnings with the same edges and the same choice for values outside agree, also if one of them divides and the other one
searches. -/
theorem bin_congr (hb : b.Regular) (hc : c.Regular) (hoverflow : c.overflow = b.overflow) (v : ℝ) : c.bin v = b.bin v := by
  rw [bin_eq_bin_lookupValue, b.bin_eq_bin_lookupValue, lookupValue_congr hedges hoverflow]
  have hb' := hb.withOverflow .clamp
  have hc' := hc.withOverflow .clamp
  exact le_antisymm (bin_le_of_edges_eq (b := b.withOverflow .clamp) (c := c.withOverflow .clamp) hedges hb' hc' rfl rfl _)
    (bin_le_of_edges_eq (b := c.withOverflow .clamp) (c := b.withOverflow .clamp) hedges.symm hc' hb' rfl rfl _)

end Congr

/-! ## A circle of two bins -/

theorem two_le_size_halves : 2 ≤ #[(-1 : ℝ), 0, 1].size := by decide

/-- Two bins on a circle of length two from minus one on, found by a division or by a search. -/
noncomputable def halves (uniform : Bool) : Binning ℝ := ⟨.x, .wrap, #[-1, 0, 1], uniform, two_le_size_halves⟩

/-- The bins can be made both ways, and with values outside cut off as well. -/
theorem constructed_halves (uniform : Bool) (o : Overflow) : ((halves uniform).withOverflow o).Constructed := by
  cases uniform with
  | true =>
    have h : Binning.ofRange .x 2 (-1 : ℝ) 1 = .ok ((halves true).withOverflow .clamp) := by
      have hlt : (-1 : ℝ) < 1 := by norm_num
      have hmiddle : (-1 + 1 : ℝ) / 2 = 0 := by norm_num
      rw [Binning.ofRange, dif_neg (by decide), if_neg (not_not.2 hlt)]
      simp only [uniformEdges_two, hmiddle]
      rfl
    exact .ofRange h o
  | false =>
    have h : Binning.ofEdges .x [(-1 : ℝ), 0, 1] = .ok ((halves false).withOverflow .clamp) := by
      have hincreasing : strictlyIncreasing [(-1 : ℝ), 0, 1] = true := by
        rw [strictlyIncreasing_iff]
        norm_num
      rw [Binning.ofEdges, dif_neg (by decide), if_neg (not_not.2 hincreasing)]
      rfl
    exact .ofEdges h o

/-- Seven halves stand for minus one half. -/
theorem onCircle_halves : (halves true).onCircle (7 / 2) = -1 / 2 := by
  have hfloor : ⌊(9 : ℝ) / 4⌋ = 2 := by
    rw [Int.floor_eq_iff]
    norm_num
  have hturns : ((7 : ℝ) / 2 - -1) / (1 - -1) = 9 / 4 := by norm_num
  change (-1 : ℝ) + Int.fract ((7 / 2 - -1) / (1 - -1)) * (1 - -1) = -1 / 2
  rw [hturns, Int.fract, hfloor]
  norm_num

/-! ## The lookup -/

/-- Under exact arithmetic, every binning that can be made has edges that ascend from the lower end of its range to the upper
one, one more than bins. These are what it was made of: the range and the number of equal bins, or the edges themselves. If values outside are cut off, a value of the range is held by one bin only, which the lookup finds, a
value below goes to the first bin, and any other one to the last. If the range is a circle, the lookup finds the one bin that
holds the point of the range that the value stands for, and going round the circle changes nothing. Binnings with the same edges
and the same choice for values outside give every value the same bin. -/
theorem bin_finds_holder (b : Binning ℝ) (hb : b.Constructed) :
    (b.edges.size = b.bins + 1 ∧ b.edges.toList.Pairwise (· < ·) ∧ b.edges.toList.head? = some b.lower ∧
        b.edges.toList.getLast? = some b.upper) ∧
      (∀ axis n lower upper o made, ofRange axis n lower upper = .ok made → b = made.withOverflow o →
        b.axis = axis ∧ b.overflow = o ∧ b.bins = n ∧ b.lower = lower ∧ b.upper = upper ∧
          ∀ i (hi : i < b.edges.size), b.edges[i] = lower + i * ((upper - lower) / n)) ∧
      (∀ axis edges o made, ofEdges axis edges = .ok made → b = made.withOverflow o →
        b.axis = axis ∧ b.overflow = o ∧ b.edges.toList = edges) ∧
      (b.overflow = .clamp → ∀ v,
        (b.lower ≤ v → v < b.upper → ∀ i, b.Holds i v ↔ i = b.bin v) ∧
          (v < b.lower → b.bin v = 0) ∧ (b.upper ≤ v → b.bin v + 1 = b.bins)) ∧
      (b.overflow = .wrap → ∀ v,
        (∀ i, b.Holds i (b.onCircle v) ↔ i = b.bin v) ∧ ∀ k : ℤ, b.bin (v + k * (b.upper - b.lower)) = b.bin v) ∧
      ∀ c : Binning ℝ, c.Constructed → c.edges = b.edges → c.overflow = b.overflow → ∀ v, c.bin v = b.bin v := by
  have hregular := hb.regular
  have hsize : b.edges.size = b.bins + 1 := by
    have := b.two_le_size
    unfold bins
    omega
  refine ⟨⟨hsize, hregular.ascending, head?_edges, getLast?_edges⟩, ?_, ?_, fun hclamp v => ?_, fun hwrap v => ?_,
    fun c hc hedges hoverflow => bin_congr hedges hregular hc.regular hoverflow⟩
  · rintro axis n lower upper o made hmade rfl
    obtain ⟨⟨hn, -⟩, haxis, hedges⟩ := of_ofRange hmade
    exact ⟨haxis, rfl, bins_of_uniformEdges hedges, lower_of_uniformEdges hn hedges, upper_of_uniformEdges hn hedges,
      fun i hi => getElem_edges_of_uniformEdges hn hedges hi⟩
  · rintro axis edges o made hmade rfl
    obtain ⟨-, haxis, hedges, -⟩ := of_ofEdges hmade
    exact ⟨haxis, rfl, hedges⟩
  · exact ⟨fun hlower hupper _ => holds_iff hregular hclamp hlower hupper, bin_of_lt_lower hregular hclamp,
      bin_of_upper_le hregular hclamp⟩
  · have hlookup : ∀ w, b.bin w = (b.withOverflow .clamp).bin (b.onCircle w) := fun w => by
      rw [bin_eq_bin_lookupValue, lookupValue_of_wrap hregular hwrap]
    obtain ⟨hlower, hupper⟩ := onCircle_mem hregular v
    constructor
    · intro i
      rw [hlookup v]
      exact holds_iff (hregular.withOverflow .clamp) rfl hlower hupper
    · intro k
      rw [hlookup, hlookup v, onCircle_add_mul hregular]

/-- On the circle, seven halves go to the first bin, three rounds back as well, and also with a search. With values outside cut
off, the edge between the bins belongs to the second one, minus five goes to the first bin, and seven halves to the last. -/
theorem bin_finds_holder_around :
    (halves true).Holds 0 ((halves true).onCircle (7 / 2)) ∧ (halves true).bin (7 / 2) = 0 ∧
      (halves true).bin (7 / 2 + (-3 : ℤ) * ((halves true).upper - (halves true).lower)) = 0 ∧
      (halves false).bin (7 / 2) = 0 ∧
      ((halves false).withOverflow .clamp).bin 0 = 1 ∧ ((halves false).withOverflow .clamp).bin (-5) = 0 ∧
      ((halves false).withOverflow .clamp).bin (7 / 2) + 1 = 2 := by
  have hholds : (halves true).Holds 0 ((halves true).onCircle (7 / 2)) := by
    rw [onCircle_halves]
    refine ⟨-1, 0, rfl, rfl, ?_, ?_⟩
    · norm_num
    · norm_num
  obtain ⟨-, -, -, -, hwrap, hsame⟩ := bin_finds_holder (halves true) (constructed_halves true .wrap)
  obtain ⟨hholder, hround⟩ := hwrap rfl (7 / 2)
  have hbin : (halves true).bin (7 / 2) = 0 := ((hholder 0).1 hholds).symm
  have hsearch : (halves false).bin (7 / 2) = 0 :=
    (hsame (halves false) (constructed_halves false .wrap) rfl rfl _).trans hbin
  obtain ⟨-, -, -, hclamp, -, -⟩ := bin_finds_holder _ (constructed_halves false .clamp)
  have hone : ((halves false).withOverflow .clamp).Holds 1 0 := ⟨0, 1, rfl, rfl, le_rfl, one_pos⟩
  refine ⟨hholds, hbin, (hround (-3)).trans hbin, hsearch, ?_, ?_, ?_⟩
  · refine (((hclamp rfl 0).1 ?_ (one_pos (α := ℝ)) 1).1 hone).symm
    change (-1 : ℝ) ≤ 0
    norm_num
  · refine (hclamp rfl (-5)).2.1 ?_
    change (-5 : ℝ) < -1
    norm_num
  · refine (hclamp rfl (7 / 2)).2.2 ?_
    change (1 : ℝ) ≤ 7 / 2
    norm_num

end Binning

end DetectorReadout
