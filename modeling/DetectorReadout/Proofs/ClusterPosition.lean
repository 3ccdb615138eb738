import Mathlib.Algebra.Order.BigOperators.Group.List
import Mathlib.Data.Set.Finite.Lemmas
import DetectorReadout.Digitization.Cluster
import DetectorReadout.Proofs.CellLengths
import DetectorReadout.Proofs.ContainingBin
import DetectorReadout.Proofs.StepChain
import DetectorReadout.Proofs.StepOrder

/-!
# The position of a cluster

Under exact arithmetic, the position of a cluster is a mean of the middles of its cells, weighted by the lengths of the steps
(`centroid_eq`). A mean with weights that are not negative lies between the smallest value and the largest
(`exists_le_weightedMean`), and as the lookup of a bin is monotone and finds the bin of a middle, the bins of the position lie
between those of the cells (`PlanarStepper.between_channels`).
-/

namespace DetectorReadout

/-- A value lies between the smallest and the largest element of a list. -/
def Between {β : Type} [LE β] (l : List β) (v : β) : Prop := (∃ a ∈ l, a ≤ v) ∧ ∃ b ∈ l, v ≤ b

/-! ## Weighted means -/

/-- The mean of a number that belongs to each step, weighted by the lengths of the steps. -/
noncomputable def weightedMean (f : Step ℝ → ℝ) (steps : List (Step ℝ)) : ℝ :=
  (steps.map fun t => f t * t.length).sum / (steps.map Step.length).sum

section Mean

variable {steps : List (Step ℝ)} (hnonneg : ∀ t ∈ steps, 0 ≤ t.length) (hpos : 0 < (steps.map Step.length).sum)

include hnonneg hpos

/-- The mean is not below the smallest of the numbers. -/
theorem exists_le_weightedMean (f : Step ℝ → ℝ) : ∃ t ∈ steps, f t ≤ weightedMean f steps := by
  have hne : {t | t ∈ steps}.Nonempty := by
    by_contra hempty
    have hnil : steps = [] := List.eq_nil_iff_forall_not_mem.2 fun t ht => hempty ⟨t, ht⟩
    rw [hnil] at hpos
    exact lt_irrefl _ hpos
  obtain ⟨t, ht, hleast⟩ := Set.exists_min_image {t | t ∈ steps} f steps.finite_toSet hne
  refine ⟨t, ht, ?_⟩
  rw [weightedMean, le_div_iff₀ hpos]
  calc f t * (steps.map Step.length).sum
      = (steps.map fun u => f t * u.length).sum := (List.sum_map_mul_left _ _ _).symm
    _ ≤ (steps.map fun u => f u * u.length).sum :=
        List.sum_le_sum fun u hu => mul_le_mul_of_nonneg_right (hleast u hu) (hnonneg u hu)

theorem between_weightedMean (f : Step ℝ → ℝ) : Between (steps.map f) (weightedMean f steps) := by
  obtain ⟨t, ht, hle⟩ := exists_le_weightedMean hnonneg hpos f
  obtain ⟨u, hu, hge⟩ := exists_le_weightedMean hnonneg hpos fun t => -f t
  have hneg : weightedMean (fun t => -f t) steps = -weightedMean f steps := by
    have hterm : (fun t : Step ℝ => -f t * t.length) = fun t => -1 * (f t * t.length) := by
      funext t
      ring
    rw [weightedMean, hterm, List.sum_map_mul_left, neg_one_mul, neg_div, weightedMean]
  rw [hneg, neg_le_neg_iff] at hge
  exact ⟨⟨f t, List.mem_map_of_mem ht, hle⟩, f u, List.mem_map_of_mem hu, hge⟩

end Mean

/-! ## The mean of the middles -/

theorem totalLength_eq (steps : List (Step ℝ)) : totalLength steps = (steps.map Step.length).sum := by
  have hfold : ∀ a : ℝ, steps.foldl (fun sum s => sum + s.length) a = a + (steps.map Step.length).sum := by
    induction steps with
    | nil => exact fun a => (add_zero a).symm
    | cons t steps ih =>
      intro a
      rw [List.foldl_cons, ih, List.map_cons, List.sum_cons, add_assoc]
  exact (hfold 0).trans (zero_add _)

theorem foldl_center_eq (steps : List (Step ℝ)) (v : Vec2 ℝ) :
    steps.foldl (fun sum s => sum + s.center * s.length) v =
      ⟨v.x + (steps.map fun t => t.center.x * t.length).sum, v.y + (steps.map fun t => t.center.y * t.length).sum⟩ := by
  induction steps generalizing v with
  | nil => simp
  | cons t steps ih =>
    rw [List.foldl_cons, ih]
    simp only [List.map_cons, List.sum_cons, ← add_assoc]
    rfl

/-- Steps with a length have a position: the mean of the middles of their cells. -/
theorem centroid_eq (steps : List (Step ℝ)) : centroid steps =
    if 0 < (steps.map Step.length).sum then
      some ⟨weightedMean (fun t => t.center.x) steps, weightedMean (fun t => t.center.y) steps⟩
    else none := by
  have hzero : ∀ r : ℝ, (0 : Vec2 ℝ).x + r = r ∧ (0 : Vec2 ℝ).y + r = r := fun r => ⟨zero_add r, zero_add r⟩
  unfold centroid
  rw [totalLength_eq, foldl_center_eq]
  simp only [hzero]
  rfl

theorem isSome_centroid_iff (steps : List (Step ℝ)) :
    (centroid steps).isSome = true ↔ 0 < (steps.map Step.length).sum := by
  rw [centroid_eq]
  split <;> simp [*]

theorem centroid_eq_of_perm {steps steps' : List (Step ℝ)} (h : steps'.Perm steps) : centroid steps' = centroid steps := by
  simp only [centroid_eq, weightedMean, (h.map _).sum_eq]

/-- A step may be told as two with the same middle that are together as long. -/
theorem centroid_split (before after : List (Step ℝ)) {t t1 t2 : Step ℝ} (h1 : t1.center = t.center)
    (h2 : t2.center = t.center) (hlength : t1.length + t2.length = t.length) :
    centroid (before ++ t1 :: t2 :: after) = centroid (before ++ t :: after) := by
  have hsum : ∀ f : Step ℝ → ℝ, f t1 + f t2 = f t →
      ((before ++ t1 :: t2 :: after).map f).sum = ((before ++ t :: after).map f).sum := by
    intro f hf
    simp only [List.map_append, List.map_cons, List.sum_append, List.sum_cons, ← hf]
    ring
  have hx := hsum (fun t => t.center.x * t.length) (by rw [h1, h2, ← mul_add, hlength])
  have hy := hsum (fun t => t.center.y * t.length) (by rw [h1, h2, ← mul_add, hlength])
  simp only [centroid_eq, weightedMean, hsum Step.length hlength, hx, hy]

/-- The position lies between the middles of the cells. -/
theorem between_centroid {steps : List (Step ℝ)} (hnonneg : ∀ t ∈ steps, 0 ≤ t.length) {mean : Vec2 ℝ}
    (h : centroid steps = some mean) :
    Between (steps.map fun t => t.center.x) mean.x ∧ Between (steps.map fun t => t.center.y) mean.y := by
  rw [centroid_eq] at h
  split at h
  · rename_i hpos
    cases h
    exact ⟨between_weightedMean hnonneg hpos _, between_weightedMean hnonneg hpos _⟩
  · nomatch h

/-! ## The bins of the position -/

/-- If a value lies between the middles of the bins of some steps, its bin lies between the bins. -/
theorem Binning.between_bin {b : Binning ℝ} (hb : b.Regular) (hclamp : b.overflow = .clamp) {steps : List (Step ℝ)}
    {channel : Step ℝ → Nat} {middle : Step ℝ → ℝ} (hchannel : ∀ t ∈ steps, channel t < b.bins)
    (hmiddle : ∀ t ∈ steps, middle t = b.center (channel t)) {v : ℝ} (h : Between (steps.map middle) v) :
    Between (steps.map channel) (b.bin v) := by
  have hbin : ∀ t ∈ steps, b.bin (middle t) = channel t := fun t ht => by
    rw [hmiddle t ht, bin_center hb (hchannel t ht)]
  obtain ⟨⟨a, ha, hle⟩, c, hc, hge⟩ := h
  obtain ⟨t, ht, rfl⟩ := List.mem_map.1 ha
  obtain ⟨u, hu, rfl⟩ := List.mem_map.1 hc
  refine ⟨⟨channel t, List.mem_map_of_mem ht, ?_⟩, channel u, List.mem_map_of_mem hu, ?_⟩
  · rw [← hbin t ht]
    exact bin_mono hb hclamp hle
  · rw [← hbin u hu]
    exact bin_mono hb hclamp hge

theorem lorentzShift_zero (thickness : ℝ) (side : ReadoutSide) : lorentzShift thickness 0 side = 0 := by
  have htan : Scalar.tan (0 : ℝ) = 0 := Real.tan_zero
  rw [lorentzShift, htan, mul_zero, zero_mul]

namespace PlanarStepper

variable {s : PlanarStepper ℝ} {module : ReadoutModule ℝ} {position : Vec2 ℝ} {direction : Vec3 ℝ}

/-- A track with steps has a position. -/
theorem sum_length_steps_pos (h0 : 0 < s.tolerance) (h : s.steps module position direction ≠ []) :
    0 < ((s.steps module position direction).map Step.length).sum := by
  obtain ⟨⟨start, delta⟩, htrack⟩ := (steps_ne_nil_iff h0).1 h
  obtain ⟨-, r, hr, -, hlength⟩ := exists_pos_of_clippedTrack? h0 htrack
  rw [steps_of_clippedTrack?_eq_some htrack, sum_length_stepsAlong h0 (tolerance_lt_one_of_clippedTrack? h0 htrack), hlength]
  exact hr

/-- The bins of the position of some steps lie between the bins of the steps. -/
theorem between_channels {segmentation : Segmentation ℝ} (hx : segmentation.x.Regular)
    (hxclamp : segmentation.x.overflow = .clamp) (hy : segmentation.y.Regular)
    (hyclamp : segmentation.y.overflow = .clamp) {steps : List (Step ℝ)} (hgapless : Gapless segmentation steps)
    (hnonneg : ∀ t ∈ steps, 0 ≤ t.length) {mean : Vec2 ℝ} (h : centroid steps = some mean) :
    Between (steps.map fun t => t.cell.channel0) (segmentation.x.bin mean.x) ∧
      Between (steps.map fun t => t.cell.channel1) (segmentation.y.bin mean.y) := by
  obtain ⟨hmeanx, hmeany⟩ := between_centroid hnonneg h
  have hmiddle : ∀ t ∈ steps, t.center.x = segmentation.x.center t.cell.channel0 ∧
      t.center.y = segmentation.y.center t.cell.channel1 := by
    intro t ht
    rw [hgapless.center_eq t ht]
    exact ⟨rfl, rfl⟩
  exact ⟨Binning.between_bin hx hxclamp (fun t ht => (hgapless.cell_lt t ht).1) (fun t ht => (hmiddle t ht).1) hmeanx,
    Binning.between_bin hy hyclamp (fun t ht => (hgapless.cell_lt t ht).2) (fun t ht => (hmiddle t ht).2) hmeany⟩

/-- Under exact arithmetic, steps whose lengths are not negative have a position exactly if they are not all without length. The
position lies between the middles of their cells, and neither their order matters nor whether a step is told as two in the same
cell. On a module with values outside cut off, with a tolerance above zero, the steps of a track have a position if there are
any. If charge does not drift, the channel of the cluster stands for bins between those of its cells, whose paths are together as
long as the steps, and so as the part of the track that is left after clipping. -/
theorem position_between_touched_cells :
    (∀ steps : List (Step ℝ), (∀ t ∈ steps, 0 ≤ t.length) →
      ((centroid steps).isSome ↔ 0 < (steps.map Step.length).sum) ∧
        (∀ mean, centroid steps = some mean →
          Between (steps.map fun t => t.center.x) mean.x ∧ Between (steps.map fun t => t.center.y) mean.y) ∧
        (∀ steps' : List (Step ℝ), steps'.Perm steps → centroid steps' = centroid steps) ∧
        ∀ before after t t1 t2, steps = before ++ t :: after → t1.center = t.center → t2.center = t.center →
          t1.length + t2.length = t.length → centroid (before ++ t1 :: t2 :: after) = centroid steps) ∧
      ∀ (s : PlanarStepper ℝ) (module : ReadoutModule ℝ) (position : Vec2 ℝ) (direction : Vec3 ℝ), 0 < s.tolerance →
        module.segmentation.x.Constructed → module.segmentation.x.overflow = .clamp →
        module.segmentation.y.Constructed → module.segmentation.y.overflow = .clamp →
        let steps := s.steps module position direction
        (steps ≠ [] → (centroid steps).isSome) ∧
          ∀ surface thickness origin time c, module.lorentzAngle = 0 →
            Cluster.ofSteps surface module thickness origin time steps = some c →
              (∃ i j, module.segmentation.grid.deserialize c.channel = ⟨i, j, 0⟩ ∧
                Between (c.cells.map Cell.channel0) i ∧ Between (c.cells.map Cell.channel1) j) ∧
              (c.cells.map Cell.data).sum = (steps.map Step.length).sum ∧
              ∃ start delta, s.clippedTrack? module position direction = some (start, delta) ∧
                (steps.map Step.length).sum = delta.length := by
  refine ⟨fun steps hnonneg => ⟨isSome_centroid_iff steps, fun _ => between_centroid hnonneg, fun _ => centroid_eq_of_perm, ?_⟩,
    fun s module position direction h0 hx hxclamp hy hyclamp => ?_⟩
  · rintro before after t t1 t2 rfl h1 h2 hlength
    exact centroid_split before after h1 h2 hlength
  intro steps
  refine ⟨fun hne => (isSome_centroid_iff steps).2 (sum_length_steps_pos h0 hne), ?_⟩
  intro surface thickness origin time c hangle hc
  obtain ⟨mean, hmean, rfl⟩ := Option.map_eq_some_iff.1 hc
  have hne : steps ≠ [] := by
    intro hnil
    have hpos := (isSome_centroid_iff steps).1 (by rw [hmean]; rfl)
    rw [hnil] at hpos
    exact lt_irrefl _ hpos
  obtain ⟨⟨start, delta⟩, htrack⟩ := (steps_ne_nil_iff h0).1 hne
  have h1 := tolerance_lt_one_of_clippedTrack? h0 htrack
  have hnonneg : ∀ t ∈ steps, 0 ≤ t.length := fun t ht => (straight_steps module position direction h0 h1 t ht).1.le
  have hgapless : Gapless module.segmentation steps := (s.gapless_steps module position direction)
  obtain ⟨hbetweenx, hbetweeny⟩ :=
    between_channels hx.regular hxclamp hy.regular hyclamp hgapless hnonneg hmean
  have hshift : mean.x + lorentzShift thickness module.lorentzAngle module.side = mean.x := by
    rw [hangle, lorentzShift_zero, add_zero]
  refine ⟨⟨module.segmentation.x.bin mean.x, module.segmentation.y.bin mean.y, ?_, ?_, ?_⟩, ?_, start, delta, htrack, ?_⟩
  · rw [Segmentation.deserialize_channel, hshift]
  · rw [List.map_map]
    exact hbetweenx
  · rw [List.map_map]
    exact hbetweeny
  · rw [List.map_map]
    rfl
  · have hsteps : steps = s.stepsAlong module.segmentation start delta := steps_of_clippedTrack?_eq_some htrack
    rw [hsteps, sum_length_stepsAlong h0 h1]

/-- A slanted track through the square sensor, close to the corner where its cells meet, has a position, and the bins of its
channel lie between those of its cells, whose paths add up to the length of three. -/
theorem position_between_touched_cells_slanted :
    let steps := (⟨1 / 10⟩ : PlanarStepper ℝ).steps quarteredSquare ⟨0, 1 / 20⟩ ⟨2, 1, 2⟩
    ∃ mean c, centroid steps = some mean ∧ Between (steps.map fun t => t.center.x) mean.x ∧
      centroid steps.reverse = some mean ∧
      Cluster.ofSteps ⟨⟨1⟩, .fixed .identity⟩ quarteredSquare 2 ⟨7, []⟩ 0 steps = some c ∧
      (∃ i j, quarteredSquare.segmentation.grid.deserialize c.channel = ⟨i, j, 0⟩ ∧
        Between (c.cells.map Cell.channel0) i ∧ Between (c.cells.map Cell.channel1) j) ∧
      (c.cells.map Cell.data).sum = 3 := by
  intro steps
  have h0 : (0 : ℝ) < 1 / 10 := by norm_num
  have h1 : (1 / 10 : ℝ) < 1 := by norm_num
  obtain ⟨hany, htrack⟩ := position_between_touched_cells
  have hnonneg : ∀ t ∈ steps, 0 ≤ t.length := fun t ht => (straight_steps quarteredSquare _ _ h0 h1 t ht).1.le
  obtain ⟨-, hbetween, hperm, -⟩ := hany steps hnonneg
  obtain ⟨hsome, hcluster⟩ := htrack ⟨1 / 10⟩ quarteredSquare ⟨0, 1 / 20⟩ ⟨2, 1, 2⟩ h0 quarteredSquare.constructed_x rfl
    quarteredSquare.constructed_y rfl
  obtain ⟨mean, hmean⟩ := Option.isSome_iff_exists.1 (hsome ((steps_ne_nil_iff h0).2 ⟨_, clippedTrack?_slanted⟩))
  have hc : Cluster.ofSteps ⟨⟨1⟩, .fixed .identity⟩ quarteredSquare 2 ⟨7, []⟩ 0 steps = some _ :=
    Option.map_eq_some_iff.2 ⟨mean, hmean, rfl⟩
  obtain ⟨hbins, hsum, start, delta, hclipped, hlength⟩ := hcluster _ _ _ _ _ rfl hc
  rw [clippedTrack?_slanted] at hclipped
  cases hclipped
  refine ⟨mean, _, hmean, (hbetween mean hmean).1, ?_, hc, hbins, ?_⟩
  · rw [hperm _ steps.reverse_perm, hmean]
  · rw [hsum, hlength, quarteredSquare.length_slanted]

/-- With a tolerance below zero, a track that only touches a corner of the square sensor has steps, but they have no length, so
it has no position. -/
theorem touching_track_has_no_position :
    let steps := (⟨-1⟩ : PlanarStepper ℝ).steps quarteredSquare ⟨1, -1⟩ ⟨2, 1, 2⟩
    steps ≠ [] ∧ centroid steps = none := by
  intro steps
  let s : PlanarStepper ℝ := ⟨-1⟩
  have hlarge : ¬ |(⟨2, 1, 2⟩ : Vec3 ℝ).unit.z| < s.tolerance :=
    not_lt.2 ((by norm_num [s] : s.tolerance ≤ 0).trans (abs_nonneg _))
  have hclip : s.clip ⟨0, -3 / 2, -1⟩ ⟨2, 1, 2⟩ ⟨-1, -1⟩ ⟨1, 1⟩ = some (1 / 2, 1 / 2) := by
    rw [clip_eq_filter]
    norm_num [clipSides, clipSide, s, abs_of_pos, abs_of_neg]
  have hz : (⟨2, 1, 2⟩ : Vec3 ℝ).unit.z ≠ 0 := by
    rw [quarteredSquare.unit_slanted]
    norm_num
  have hentry : quarteredSquare.entryPoint ⟨1, -1⟩ ⟨2, 1, 2⟩ = ⟨0, -3 / 2, -1⟩ := by
    rw [quarteredSquare.entryPoint_slanted]
    norm_num
  have htrack : s.clippedTrack? quarteredSquare ⟨1, -1⟩ ⟨2, 1, 2⟩ =
      some ((⟨0, -3 / 2, -1⟩ : Vec3 ℝ) + (⟨2, 1, 2⟩ : Vec3 ℝ) * (1 / 2 : ℝ), (⟨2, 1, 2⟩ : Vec3 ℝ) * (1 / 2 - 1 / 2 : ℝ)) := by
    unfold clippedTrack?
    rw [Scalar.abs_real, if_neg hlarge, ReadoutModule.throughSensor_eq quarteredSquare _ hz, hentry,
      quarteredSquare.way_slanted, quarteredSquare.lowerCorner_eq, quarteredSquare.upperCorner_eq]
    simp only [hclip]
    rfl
  have hsteps : steps = _ := steps_of_clippedTrack?_eq_some htrack
  refine ⟨steps_ne_nil_of_clippedTrack? htrack, ?_⟩
  rw [hsteps, centroid_eq, sum_length_stepsAlong_eq, Vec3.length_mul, sub_self, abs_zero, zero_mul, mul_zero,
    if_neg (lt_irrefl _)]

end PlanarStepper

end DetectorReadout
