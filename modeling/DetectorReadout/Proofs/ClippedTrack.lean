import Mathlib.Data.Real.Sign
import Mathlib.Order.Interval.Set.Basic
import DetectorReadout.Proofs.TrackCuts
import DetectorReadout.Proofs.TrackPieces

/-!
# The clipped track

A track is reduced to its part between the two faces of the sensor and above the sensitive rectangle, and the steps are the
joined pieces of this part (`PlanarStepper.steps_eq`). Under exact arithmetic, clipping by one side after the other leaves the
parameters at which the track is above the rectangle, if every extent is either zero or not neglected
(`PlanarStepper.clip_eq_some_iff`).
-/

namespace DetectorReadout

/-- The parameters between zero and one at which a track is above the closed rectangle between two corners. -/
def chord (start way : Vec3 ℝ) (lower upper : Vec2 ℝ) : Set ℝ :=
  {u | u ∈ Set.Icc 0 1 ∧ (start + way * u).x ∈ Set.Icc lower.x upper.x ∧ (start + way * u).y ∈ Set.Icc lower.y upper.y}

namespace PlanarStepper

section Definitions

variable {α : Type} [Scalar α] (s : PlanarStepper α) (module : ReadoutModule α) (position : Vec2 α) (direction : Vec3 α)

/-- The part of a track that is cut into steps: where it begins, and the way to its end. There is none if the track has no
steps. -/
def clippedTrack? : Option (Vec3 α × Vec3 α) :=
  if Scalar.abs direction.unit.z < s.tolerance then none
  else
    let (entry, way) := throughSensor module.halfThickness position direction.unit
    (s.clip entry way module.segmentation.lowerCorner module.segmentation.upperCorner).map fun (u, v) =>
      (entry + way * u, way * (v - u))

/-- The steps along a part of a track. -/
def stepsAlong (segmentation : Segmentation α) (start delta : Vec3 α) : List (Step α) :=
  join (pieces segmentation start delta delta.length
    (s.cuts start delta segmentation.x.edges.toList segmentation.y.edges.toList))

theorem steps_eq : s.steps module position direction =
    (s.clippedTrack? module position direction).elim [] fun track =>
      s.stepsAlong module.segmentation track.1 track.2 := by
  unfold steps clippedTrack?
  simp only
  split
  · rfl
  · cases s.clip _ _ module.segmentation.lowerCorner module.segmentation.upperCorner with
    | none => rfl
    | some part => rfl

variable {s module position direction}

theorem steps_of_clippedTrack?_eq_none (h : s.clippedTrack? module position direction = none) :
    s.steps module position direction = [] := by
  rw [steps_eq, h]
  rfl

theorem steps_of_clippedTrack?_eq_some {start delta : Vec3 α}
    (h : s.clippedTrack? module position direction = some (start, delta)) :
    s.steps module position direction = s.stepsAlong module.segmentation start delta := by
  rw [steps_eq, h]
  rfl

end Definitions

/-! ## Clipping -/

section Clipping

/-- The parameters of a part of a track, none if there is no part. -/
def span (part : Option (ℝ × ℝ)) : Set ℝ := part.elim ∅ fun t => Set.Icc t.1 t.2

/-- The part of a track that is left by the sides of the rectangle, however short it is. -/
def clipSides {α : Type} [Scalar α] (s : PlanarStepper α) (start delta : Vec3 α) (lower upper : Vec2 α) : Option (α × α) :=
  (((s.clipSide (0, 1) (-delta.x) (start.x - lower.x)).bind fun part => s.clipSide part delta.x (upper.x - start.x)).bind
    fun part => s.clipSide part (-delta.y) (start.y - lower.y)).bind fun part => s.clipSide part delta.y (upper.y - start.y)

/-- A part of a track is what the sides leave of it, if that is long enough. -/
theorem clip_eq_filter {α : Type} [Scalar α] (s : PlanarStepper α) (start delta : Vec3 α) (lower upper : Vec2 α) :
    s.clip start delta lower upper =
      (s.clipSides start delta lower upper).filter fun part => s.tolerance < part.2 - part.1 := by
  unfold clip clipSides
  cases s.clipSide (0, 1) (-delta.x) (start.x - lower.x) with
  | none => rfl
  | some part1 =>
    change (s.clipSide part1 _ _ >>= _) = Option.filter _ (((s.clipSide part1 _ _).bind _).bind _)
    cases s.clipSide part1 delta.x (upper.x - start.x) with
    | none => rfl
    | some part2 =>
      change (s.clipSide part2 _ _ >>= _) = Option.filter _ ((s.clipSide part2 _ _).bind _)
      cases s.clipSide part2 (-delta.y) (start.y - lower.y) with
      | none => rfl
      | some part3 =>
        change (s.clipSide part3 _ _ >>= _) = Option.filter _ (s.clipSide part3 _ _)
        cases s.clipSide part3 delta.y (upper.y - start.y) with
        | none => rfl
        | some part4 => simp [Option.filter]

variable (s : PlanarStepper ℝ)

theorem clipSide_subset {part part' : ℝ × ℝ} {p q : ℝ} (h : s.clipSide part p q = some part') :
    part.1 ≤ part'.1 ∧ part'.2 ≤ part.2 := by
  unfold clipSide at h
  split at h
  · split at h
    · nomatch h
    · cases h
      exact ⟨le_rfl, le_rfl⟩
  · split at h
    · cases h
      rw [Scalar.max_real]
      exact ⟨le_max_left _ _, le_rfl⟩
    · cases h
      rw [Scalar.min_real]
      exact ⟨le_rfl, min_le_left _ _⟩

theorem clipSides_subset {start delta : Vec3 ℝ} {lower upper : Vec2 ℝ} {part : ℝ × ℝ}
    (h : s.clipSides start delta lower upper = some part) : 0 ≤ part.1 ∧ part.2 ≤ 1 := by
  obtain ⟨part3, h3, h4⟩ := Option.bind_eq_some_iff.1 h
  obtain ⟨part2, h2, h3⟩ := Option.bind_eq_some_iff.1 h3
  obtain ⟨part1, h1, h2⟩ := Option.bind_eq_some_iff.1 h2
  obtain ⟨hl1, hu1⟩ := s.clipSide_subset h1
  obtain ⟨hl2, hu2⟩ := s.clipSide_subset h2
  obtain ⟨hl3, hu3⟩ := s.clipSide_subset h3
  obtain ⟨hl4, hu4⟩ := s.clipSide_subset h4
  exact ⟨hl1.trans (hl2.trans (hl3.trans hl4)), hu4.trans (hu3.trans (hu2.trans hu1))⟩

variable {s} (h0 : 0 < s.tolerance)

include h0

/-- One side leaves the parameters on its inner side. -/
theorem span_clipSide (part : ℝ × ℝ) {p q : ℝ} (hp : p = 0 ∨ s.tolerance ≤ |p|) :
    span (s.clipSide part p q) = Set.Icc part.1 part.2 ∩ {u | p * u ≤ q} := by
  unfold clipSide
  rw [Scalar.abs_real]
  split
  · rename_i hsmall
    have hzero : p = 0 := hp.resolve_right (not_le.2 hsmall)
    split
    · rename_i hq
      ext u
      simp [span, hzero, hq]
    · rename_i hq
      ext u
      simp [span, hzero, not_lt.1 hq]
  · rename_i hlarge
    have hne : p ≠ 0 := abs_pos.1 (h0.trans_le (not_lt.1 hlarge))
    split
    · rename_i hneg
      ext u
      simp only [span, Option.elim_some, Scalar.max_real, Set.mem_Icc, max_le_iff, Set.mem_inter_iff, Set.mem_ofPred_eq,
        div_le_iff_of_neg hneg, mul_comm u p]
      tauto
    · rename_i hnonneg
      have hpos : 0 < p := lt_of_le_of_ne (not_lt.1 hnonneg) hne.symm
      ext u
      simp only [span, Option.elim_some, Scalar.min_real, Set.mem_Icc, le_min_iff, Set.mem_inter_iff, Set.mem_ofPred_eq,
        le_div_iff₀ hpos, mul_comm u p]
      tauto

theorem span_bind_clipSide (part : Option (ℝ × ℝ)) {p q : ℝ} (hp : p = 0 ∨ s.tolerance ≤ |p|) :
    span (part.bind fun part => s.clipSide part p q) = span part ∩ {u | p * u ≤ q} := by
  cases part with
  | none => simp [span]
  | some part => exact span_clipSide h0 part hp

variable {start delta : Vec3 ℝ} {lower upper : Vec2 ℝ} (hx : delta.x = 0 ∨ s.tolerance ≤ |delta.x|)
  (hy : delta.y = 0 ∨ s.tolerance ≤ |delta.y|)

include hx hy

theorem span_clipSides : span (s.clipSides start delta lower upper) = chord start delta lower upper := by
  have hx' : -delta.x = 0 ∨ s.tolerance ≤ |-delta.x| := by rwa [neg_eq_zero, abs_neg]
  have hy' : -delta.y = 0 ∨ s.tolerance ≤ |-delta.y| := by rwa [neg_eq_zero, abs_neg]
  unfold clipSides
  rw [span_bind_clipSide h0 _ hy, span_bind_clipSide h0 _ hy', span_bind_clipSide h0 _ hx, span_clipSide h0 _ hx']
  ext u
  simp only [chord, Set.mem_inter_iff, Set.mem_ofPred_eq, Set.mem_Icc, Vec3.add_components, Vec3.mul_components]
  constructor
  · rintro ⟨⟨⟨⟨hu, h1⟩, h2⟩, h3⟩, h4⟩
    exact ⟨hu, ⟨by linarith, by linarith⟩, by linarith, by linarith⟩
  · rintro ⟨hu, ⟨h1, h2⟩, h3, h4⟩
    exact ⟨⟨⟨⟨hu, by linarith⟩, by linarith⟩, by linarith⟩, by linarith⟩

/-- The part of a track between two parameters is kept exactly if it is the part above the rectangle and long enough. -/
theorem clip_eq_some_iff {a b : ℝ} : s.clip start delta lower upper = some (a, b) ↔
    chord start delta lower upper = Set.Icc a b ∧ s.tolerance < b - a := by
  rw [clip_eq_filter, Option.filter_eq_some_iff, decide_eq_true_eq, ← span_clipSides h0 hx hy]
  refine and_congr_left fun hlong => ⟨fun h => by rw [h]; rfl, fun h => ?_⟩
  have hle : a ≤ b := by linarith
  cases hsides : s.clipSides start delta lower upper with
  | none =>
    rw [hsides] at h
    have hempty : (∅ : Set ℝ) = Set.Icc a b := h
    exact absurd hempty.symm (Set.nonempty_Icc.2 hle).ne_empty
  | some part =>
    rw [hsides] at h
    obtain ⟨ha, hb⟩ := (Set.Icc_eq_Icc_iff hle).1 (Eq.symm h : Set.Icc a b = Set.Icc part.1 part.2)
    rw [ha, hb]

end Clipping

end PlanarStepper

/-! ## The track through a sensor -/

namespace ReadoutModule

variable (module : ReadoutModule ℝ) (position : Vec2 ℝ) (direction : Vec3 ℝ)

/-- Where a track enters the sensor: at the face from which it comes. -/
noncomputable def entryPoint : Vec3 ℝ :=
  position.extend 0 + direction.unit * (-(module.halfThickness / |direction.unit.z|))

/-- The way of a track from the face where it enters the sensor to the opposite face. -/
noncomputable def way : Vec3 ℝ :=
  direction.unit * ((module.halfThickness + module.halfThickness) / |direction.unit.z|)

theorem way_eq : module.way direction = direction.unit * (2 * module.halfThickness / |direction.unit.z|) := by
  rw [way, two_mul]

variable {direction} (hz : direction.unit.z ≠ 0)

include hz

theorem direction_ne_zero_of_unit_z : direction ≠ 0 := by
  rintro rfl
  rw [Vec3.unit_zero] at hz
  exact hz rfl

theorem entryPoint_z : (module.entryPoint position direction).z = -(Real.sign direction.unit.z * module.halfThickness) := by
  have habs : |direction.unit.z| ≠ 0 := abs_ne_zero.2 hz
  simp only [entryPoint, Vec2.extend, Vec3.add_components, Vec3.mul_components, zero_add]
  rcases lt_or_gt_of_ne hz with hneg | hpos
  · rw [Real.sign_of_neg hneg, abs_of_neg hneg]
    field_simp
  · rw [Real.sign_of_pos hpos, abs_of_pos hpos]
    field_simp

theorem entryPoint_add_way_z :
    (module.entryPoint position direction + module.way direction).z = Real.sign direction.unit.z * module.halfThickness := by
  rw [(Vec3.add_components _ _).2.2, module.entryPoint_z position hz, way_eq, (Vec3.mul_components _ _).2.2]
  rcases lt_or_gt_of_ne hz with hneg | hpos
  · rw [Real.sign_of_neg hneg, abs_of_neg hneg]
    field_simp
    ring
  · rw [Real.sign_of_pos hpos, abs_of_pos hpos]
    field_simp
    ring

theorem length_way : (module.way direction).length = 2 * module.halfThickness / |direction.unit.z| := by
  have hpos : 0 ≤ 2 * module.halfThickness / |direction.unit.z| :=
    div_nonneg (mul_nonneg zero_le_two module.halfThickness_pos.le) (abs_nonneg _)
  rw [way_eq, Vec3.length_mul, Vec3.length_unit (direction_ne_zero_of_unit_z hz), abs_of_nonneg hpos, mul_one]

theorem throughSensor_eq : PlanarStepper.throughSensor module.halfThickness position direction.unit =
    (module.entryPoint position direction, module.way direction) := by
  have hhalf := module.halfThickness_pos
  have hmin : min (-module.halfThickness / direction.unit.z) (module.halfThickness / direction.unit.z) =
      -(module.halfThickness / |direction.unit.z|) := by
    rcases lt_or_gt_of_ne hz with hneg | hpos
    · have hquot := div_neg_of_pos_of_neg hhalf hneg
      rw [abs_of_neg hneg, div_neg, neg_neg, neg_div]
      exact min_eq_right (by linarith)
    · have hquot := div_pos hhalf hpos
      rw [abs_of_pos hpos, neg_div]
      exact min_eq_left (by linarith)
  have hmax : max (-module.halfThickness / direction.unit.z) (module.halfThickness / direction.unit.z) =
      module.halfThickness / |direction.unit.z| := by
    rcases lt_or_gt_of_ne hz with hneg | hpos
    · have hquot := div_neg_of_pos_of_neg hhalf hneg
      rw [abs_of_neg hneg, div_neg, neg_div]
      exact max_eq_left (by linarith)
    · have hquot := div_pos hhalf hpos
      rw [abs_of_pos hpos, neg_div]
      exact max_eq_right (by linarith)
  unfold PlanarStepper.throughSensor
  simp only [Scalar.min_real, Scalar.max_real, hmin, hmax]
  rw [Prod.mk.injEq]
  refine ⟨rfl, ?_⟩
  apply Vec3.ext <;> simp only [way_eq, Vec3.add_components, Vec3.sub_components, Vec3.mul_components] <;> ring

end ReadoutModule

namespace PlanarStepper

variable {s : PlanarStepper ℝ} {module : ReadoutModule ℝ} {position : Vec2 ℝ} {direction : Vec3 ℝ}

/-- The clipped track is a part of the track through the sensor, longer than the tolerance. -/
theorem clippedTrack?_eq_some_iff (h0 : 0 < s.tolerance) {start delta : Vec3 ℝ} :
    s.clippedTrack? module position direction = some (start, delta) ↔
      s.tolerance ≤ |direction.unit.z| ∧ ∃ a b,
        s.clip (module.entryPoint position direction) (module.way direction) module.segmentation.lowerCorner
          module.segmentation.upperCorner = some (a, b) ∧
        start = module.entryPoint position direction + module.way direction * a ∧ delta = module.way direction * (b - a) := by
  unfold clippedTrack?
  rw [Scalar.abs_real]
  split
  · rename_i hsmall
    simp [not_le.2 hsmall]
  · rename_i hlarge
    have hz : direction.unit.z ≠ 0 := abs_pos.1 (h0.trans_le (not_lt.1 hlarge))
    rw [module.throughSensor_eq position hz]
    simp only [Option.map_eq_some_iff, Prod.mk.injEq, Prod.exists, not_lt.1 hlarge, true_and]
    constructor
    · rintro ⟨a, b, hclip, rfl, rfl⟩
      exact ⟨a, b, hclip, rfl, rfl⟩
    · rintro ⟨a, b, hclip, rfl, rfl⟩
      exact ⟨a, b, hclip, rfl, rfl⟩

theorem of_clip_eq_some {start delta : Vec3 ℝ} {lower upper : Vec2 ℝ} {a b : ℝ}
    (h : s.clip start delta lower upper = some (a, b)) : 0 ≤ a ∧ b ≤ 1 ∧ s.tolerance < b - a := by
  rw [clip_eq_filter, Option.filter_eq_some_iff, decide_eq_true_eq] at h
  obtain ⟨ha, hb⟩ := s.clipSides_subset h.1
  exact ⟨ha, hb, h.2⟩

end PlanarStepper

end DetectorReadout
