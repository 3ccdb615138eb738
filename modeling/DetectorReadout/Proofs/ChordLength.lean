import Mathlib.Tactic.Linarith
import DetectorReadout.Proofs.BinLookup
import DetectorReadout.Proofs.ClippedTrack

/-!
# The length of a track in a module

Under exact arithmetic, the steps of a track begin where its clipped part begins and end where it ends, and together they are
as long (`PlanarStepper.sum_length_stepsAlong`). If no extent of the track is neglected, the clipped part is the chord: all of
the track between the two faces of the sensor that lies above the sensitive rectangle. A track has steps exactly if its chord is
longer than the tolerance (`PlanarStepper.steps_account_for_chord`).
-/

namespace DetectorReadout

namespace PlanarStepper

/-! ## Steps along a part of a track -/

section Along

variable {s : PlanarStepper ℝ} (h0 : 0 < s.tolerance) (h1 : s.tolerance < 1) (segmentation : Segmentation ℝ)
  (start delta : Vec3 ℝ)

include h0 h1

omit h0 h1 in
/-- Whatever the tolerance is, the steps are together as long as the part of the track up to the last cut. -/
theorem sum_length_stepsAlong_eq : ((s.stepsAlong segmentation start delta).map Step.length).sum =
    (s.cuts start delta segmentation.x.edges.toList segmentation.y.edges.toList).getLast?.getD 0 * delta.length := by
  have hjoin := sum_length_filter_join (fun _ => true) (pieces segmentation start delta delta.length
    (s.cuts start delta segmentation.x.edges.toList segmentation.y.edges.toList))
  have hall : ∀ l : List (Step ℝ), l.filter ((fun _ => true) ∘ channels) = l := fun l => List.filter_eq_self.2 fun _ _ => rfl
  rw [hall, hall] at hjoin
  rw [stepsAlong, hjoin, pieces_eq, sum_length_piecesFrom, sub_zero]

theorem sum_length_stepsAlong : ((s.stepsAlong segmentation start delta).map Step.length).sum = delta.length := by
  rw [sum_length_stepsAlong_eq, getLast?_cuts h0.le start delta _ _ h1, Option.getD_some, one_mul]

theorem head?_stepsAlong : (s.stepsAlong segmentation start delta).head?.map Step.entry = some start := by
  unfold stepsAlong
  cases hcuts : s.cuts start delta segmentation.x.edges.toList segmentation.y.edges.toList with
  | nil =>
    have hlast := getLast?_cuts h0.le start delta segmentation.x.edges.toList segmentation.y.edges.toList h1
    rw [hcuts] at hlast
    nomatch hlast
  | cons u rest =>
    have hstart : start + delta * (0 : ℝ) = start := by apply Vec3.ext <;> simp
    rw [pieces_eq, piecesFrom_cons, join, head?_joinFrom]
    exact congrArg some hstart

theorem getLast?_stepsAlong : (s.stepsAlong segmentation start delta).getLast?.map Step.exit = some (start + delta) := by
  have hend : start + delta * (1 : ℝ) = start + delta := by apply Vec3.ext <;> simp
  have hpieces := getLast?_piecesFrom segmentation start delta delta.length 0
    (s.cuts start delta segmentation.x.edges.toList segmentation.y.edges.toList)
  rw [getLast?_cuts h0.le start delta _ _ h1, Option.map_some, hend] at hpieces
  rw [stepsAlong, pieces_eq, ← hpieces]
  cases piecesFrom segmentation start delta delta.length 0
      (s.cuts start delta segmentation.x.edges.toList segmentation.y.edges.toList) with
  | nil => rfl
  | cons first rest => exact getLast?_joinFrom first rest

theorem stepsAlong_ne_nil : s.stepsAlong segmentation start delta ≠ [] := by
  intro hnil
  have hhead := head?_stepsAlong h0 h1 segmentation start delta
  rw [hnil] at hhead
  nomatch hhead

end Along

section Steps

variable {s : PlanarStepper ℝ} {module : ReadoutModule ℝ} {position : Vec2 ℝ} {direction : Vec3 ℝ}

/-- A tolerance of one or more leaves no track. -/
theorem tolerance_lt_one_of_clippedTrack? (h0 : 0 < s.tolerance) {track : Vec3 ℝ × Vec3 ℝ}
    (h : s.clippedTrack? module position direction = some track) : s.tolerance < 1 := by
  obtain ⟨-, a, b, hclip, -, -⟩ := (clippedTrack?_eq_some_iff h0).1 h
  obtain ⟨ha, hb, hlong⟩ := of_clip_eq_some hclip
  linarith

/-- A track has steps exactly if a part of it is left. -/
theorem steps_ne_nil_iff (h0 : 0 < s.tolerance) :
    s.steps module position direction ≠ [] ↔ ∃ track, s.clippedTrack? module position direction = some track := by
  cases htrack : s.clippedTrack? module position direction with
  | none => simp [steps_of_clippedTrack?_eq_none htrack]
  | some track =>
    rw [steps_of_clippedTrack?_eq_some htrack]
    have h1 := tolerance_lt_one_of_clippedTrack? h0 htrack
    exact iff_of_true (stepsAlong_ne_nil h0 h1 _ _ _) ⟨track, rfl⟩

end Steps

end PlanarStepper

/-! ## A square sensor -/

/-- A square sensor with two by two cells: equal bins along the first coordinate, and given edges along the second. -/
noncomputable def quarteredSquare : ReadoutModule ℝ where
  segmentation :=
    ⟨⟨.x, .clamp, Binning.uniformEdges 2 (-1) 1, true, by simp [Binning.uniformEdges]⟩,
      ⟨.y, .clamp, #[-1, 0, 1], false, by decide⟩, none, rfl, rfl⟩
  halfThickness := 1
  side := .positive
  lorentzAngle := 0
  halfThickness_pos := one_pos
  isFinite_lorentzAngle := rfl

namespace quarteredSquare

theorem constructed_x : quarteredSquare.segmentation.x.Constructed := by
  have h : Binning.ofRange .x 2 (-1 : ℝ) 1 = .ok quarteredSquare.segmentation.x := by
    have hlt : (-1 : ℝ) < 1 := by norm_num
    rw [Binning.ofRange, dif_neg (by decide), if_neg (not_not.2 hlt)]
    rfl
  exact .ofRange h .clamp

theorem constructed_y : quarteredSquare.segmentation.y.Constructed := by
  have h : Binning.ofEdges .y [(-1 : ℝ), 0, 1] = .ok quarteredSquare.segmentation.y := by
    have hincreasing : Binning.strictlyIncreasing [(-1 : ℝ), 0, 1] = true := by
      rw [Binning.strictlyIncreasing_iff]
      norm_num
    rw [Binning.ofEdges, dif_neg (by decide), if_neg (not_not.2 hincreasing)]
    rfl
  exact .ofEdges h .clamp

theorem bins_x : quarteredSquare.segmentation.x.bins = 2 := by
  simp [Binning.bins, quarteredSquare, Binning.uniformEdges]

theorem bins_y : quarteredSquare.segmentation.y.bins = 2 := rfl

theorem edges_x : quarteredSquare.segmentation.x.edges = #[-1, 0, 1] := by
  have hedges : Binning.uniformEdges 2 (-1 : ℝ) 1 = #[-1, 0, 1] := by
    have hmiddle : (-1 + 1 : ℝ) / 2 = 0 := by norm_num
    rw [Binning.uniformEdges_two, hmiddle]
  exact hedges

theorem lowerCorner_eq : quarteredSquare.segmentation.lowerCorner = ⟨-1, -1⟩ := by
  have hx : quarteredSquare.segmentation.x.lower = -1 := by simp [Binning.lower, edges_x]
  rw [Segmentation.lowerCorner, hx]
  rfl

theorem upperCorner_eq : quarteredSquare.segmentation.upperCorner = ⟨1, 1⟩ := by
  have hx : quarteredSquare.segmentation.x.upper = 1 := by simp [Binning.upper, bins_x, edges_x]
  rw [Segmentation.upperCorner, hx]
  rfl

theorem length_slanted : (⟨2, 1, 2⟩ : Vec3 ℝ).length = 3 := by
  rw [Vec3.length, Scalar.sqrt_real, Real.sqrt_eq_iff_mul_self_eq_of_pos (by norm_num)]
  norm_num [Vec3.dot]

theorem unit_slanted : (⟨2, 1, 2⟩ : Vec3 ℝ).unit = ⟨2 / 3, 1 / 3, 2 / 3⟩ := by
  have hne : (⟨2, 1, 2⟩ : Vec3 ℝ) ≠ 0 := by
    rw [← Vec3.length_pos_iff, length_slanted]
    norm_num
  rw [Vec3.unit_of_ne_zero hne, length_slanted]
  apply Vec3.ext <;> norm_num

theorem way_slanted : quarteredSquare.way ⟨2, 1, 2⟩ = ⟨2, 1, 2⟩ := by
  rw [ReadoutModule.way_eq, unit_slanted]
  apply Vec3.ext <;> norm_num [quarteredSquare, abs_of_pos]

theorem entryPoint_slanted (x y : ℝ) : quarteredSquare.entryPoint ⟨x, y⟩ ⟨2, 1, 2⟩ = ⟨x - 1, y - 1 / 2, -1⟩ := by
  rw [ReadoutModule.entryPoint, unit_slanted]
  apply Vec3.ext <;> norm_num [quarteredSquare, abs_of_pos, Vec2.extend] <;> ring

end quarteredSquare

namespace PlanarStepper

/-! ## A slanted track -/

/-- Above the square sensor, all of a slanted track is left that goes from one side to the opposite one. -/
theorem clippedTrack?_slanted_at {y : ℝ} (hy : |y| ≤ 1 / 2) :
    (⟨1 / 10⟩ : PlanarStepper ℝ).clippedTrack? quarteredSquare ⟨0, y⟩ ⟨2, 1, 2⟩ = some (⟨-1, y - 1 / 2, -1⟩, ⟨2, 1, 2⟩) := by
  have h0 : (0 : ℝ) < 1 / 10 := by norm_num
  have hlarge : (1 / 10 : ℝ) ≤ |(⟨2, 1, 2⟩ : Vec3 ℝ).unit.z| := by
    rw [quarteredSquare.unit_slanted]
    norm_num [abs_of_pos]
  obtain ⟨hlow, hhigh⟩ := abs_le.1 hy
  have hchord : chord ⟨-1, y - 1 / 2, -1⟩ ⟨2, 1, 2⟩ ⟨-1, -1⟩ ⟨1, 1⟩ = Set.Icc 0 1 := by
    refine Set.Subset.antisymm (fun u hu => hu.1) fun u hu => ⟨hu, ?_⟩
    simp only [Vec3.add_components, Vec3.mul_components, Set.mem_Icc] at hu ⊢
    exact ⟨⟨by linarith, by linarith⟩, by linarith, by linarith⟩
  have hentry : quarteredSquare.entryPoint ⟨0, y⟩ ⟨2, 1, 2⟩ = ⟨-1, y - 1 / 2, -1⟩ := by
    rw [quarteredSquare.entryPoint_slanted, zero_sub]
  rw [clippedTrack?_eq_some_iff h0, hentry, quarteredSquare.way_slanted, quarteredSquare.lowerCorner_eq,
    quarteredSquare.upperCorner_eq]
  refine ⟨hlarge, 0, 1, (clip_eq_some_iff h0 (Or.inr ?_) (Or.inr ?_)).2 ⟨hchord, by norm_num⟩, ?_, ?_⟩
  · norm_num
  · norm_num
  · apply Vec3.ext <;> norm_num
  · apply Vec3.ext <;> norm_num

theorem clippedTrack?_slanted : (⟨1 / 10⟩ : PlanarStepper ℝ).clippedTrack? quarteredSquare ⟨0, 1 / 20⟩ ⟨2, 1, 2⟩ =
    some (⟨-1, -9 / 20, -1⟩, ⟨2, 1, 2⟩) := by
  have hdepth : (1 / 20 - 1 / 2 : ℝ) = -9 / 20 := by norm_num
  rw [clippedTrack?_slanted_at (by norm_num [abs_of_pos]), hdepth]

/-! ## The chord -/

/-- Steps account for the part of a track between two parameters: they begin and end there, and together they are as long. -/
structure AccountFor (steps : List (Step ℝ)) (start way : Vec3 ℝ) (a b : ℝ) : Prop where
  sum_length : (steps.map Step.length).sum = (b - a) * way.length
  first_entry : steps.head?.map Step.entry = some (start + way * a)
  last_exit : steps.getLast?.map Step.exit = some (start + way * b)

section Chord

variable {s : PlanarStepper ℝ} {module : ReadoutModule ℝ} {position : Vec2 ℝ} {direction : Vec3 ℝ}

/-- The steps account for the part of the track that clipping leaves. -/
theorem accountFor_of_clip (h0 : 0 < s.tolerance) (hlarge : s.tolerance ≤ |direction.unit.z|) {a b : ℝ}
    (hclip : s.clip (module.entryPoint position direction) (module.way direction) module.segmentation.lowerCorner
      module.segmentation.upperCorner = some (a, b)) :
    AccountFor (s.steps module position direction) (module.entryPoint position direction) (module.way direction) a b := by
  have htrack := (clippedTrack?_eq_some_iff h0).2 ⟨hlarge, a, b, hclip, rfl, rfl⟩
  have h1 := tolerance_lt_one_of_clippedTrack? h0 htrack
  have hsteps := steps_of_clippedTrack?_eq_some htrack
  have hend : module.entryPoint position direction + module.way direction * a + module.way direction * (b - a) =
      module.entryPoint position direction + module.way direction * b := by
    apply Vec3.ext <;> simp only [Vec3.add_components, Vec3.mul_components] <;> ring
  constructor
  · rw [hsteps, sum_length_stepsAlong h0 h1, Vec3.length_mul, abs_of_pos (h0.trans (of_clip_eq_some hclip).2.2)]
  · rw [hsteps, head?_stepsAlong h0 h1]
  · rw [hsteps, getLast?_stepsAlong h0 h1, hend]

/-- A track that is not along the module has steps exactly if clipping leaves a part of it. -/
theorem steps_ne_nil_iff_clip (h0 : 0 < s.tolerance) (hlarge : s.tolerance ≤ |direction.unit.z|) :
    s.steps module position direction ≠ [] ↔
      ∃ a b, s.clip (module.entryPoint position direction) (module.way direction) module.segmentation.lowerCorner
        module.segmentation.upperCorner = some (a, b) := by
  rw [steps_ne_nil_iff h0]
  constructor
  · rintro ⟨⟨start, delta⟩, htrack⟩
    obtain ⟨-, a, b, hclip, -, -⟩ := (clippedTrack?_eq_some_iff h0).1 htrack
    exact ⟨a, b, hclip⟩
  · rintro ⟨a, b, hclip⟩
    exact ⟨_, (clippedTrack?_eq_some_iff h0).2 ⟨hlarge, a, b, hclip, rfl, rfl⟩⟩

end Chord

/-- Under exact arithmetic, a track along the module has no steps. Any other track enters the sensor at the face from which it
comes and leaves it at the opposite one. If each of its extents is zero or not neglected, it has steps exactly if its chord is
an interval longer than the tolerance, and the steps account for this chord. -/
theorem steps_account_for_chord (s : PlanarStepper ℝ) (module : ReadoutModule ℝ) (position : Vec2 ℝ) (direction : Vec3 ℝ)
    (h0 : 0 < s.tolerance) :
    let entry := module.entryPoint position direction
    let way := module.way direction
    let above := chord entry way module.segmentation.lowerCorner module.segmentation.upperCorner
    let steps := s.steps module position direction
    (|direction.unit.z| < s.tolerance → steps = []) ∧
      (s.tolerance ≤ |direction.unit.z| →
        entry.z = -(Real.sign direction.unit.z * module.halfThickness) ∧
        (entry + way).z = Real.sign direction.unit.z * module.halfThickness ∧
        way.length = 2 * module.halfThickness / |direction.unit.z| ∧
        ((way.x = 0 ∨ s.tolerance ≤ |way.x|) → (way.y = 0 ∨ s.tolerance ≤ |way.y|) →
          (steps ≠ [] ↔ ∃ a b, above = Set.Icc a b ∧ s.tolerance < b - a) ∧
          ∀ a b, above = Set.Icc a b → s.tolerance < b - a → AccountFor steps entry way a b)) := by
  intro entry way above steps
  refine ⟨fun hsmall => steps_of_clippedTrack?_eq_none (if_pos hsmall), fun hlarge => ?_⟩
  have hz : direction.unit.z ≠ 0 := abs_pos.1 (h0.trans_le hlarge)
  refine ⟨module.entryPoint_z position hz, module.entryPoint_add_way_z position hz, module.length_way hz, fun hx hy => ?_⟩
  have hclip : ∀ a b, s.clip entry way module.segmentation.lowerCorner module.segmentation.upperCorner = some (a, b) ↔
      above = Set.Icc a b ∧ s.tolerance < b - a := fun a b => clip_eq_some_iff h0 hx hy
  constructor
  · rw [steps_ne_nil_iff_clip h0 hlarge]
    exact exists_congr fun a => exists_congr fun b => hclip a b
  · intro a b habove hlong
    exact accountFor_of_clip h0 hlarge ((hclip a b).2 ⟨habove, hlong⟩)

/-- A slanted track leaves the square sensor through its side: the chord is three quarters of the way between the faces. -/
theorem steps_account_for_chord_through_side :
    let s : PlanarStepper ℝ := ⟨1 / 10⟩
    let entry : Vec3 ℝ := ⟨-1 / 2, -1 / 2, -1⟩
    let steps := s.steps quarteredSquare ⟨1 / 2, 0⟩ ⟨2, 1, 2⟩
    chord entry ⟨2, 1, 2⟩ ⟨-1, -1⟩ ⟨1, 1⟩ = Set.Icc 0 (3 / 4) ∧ steps ≠ [] ∧
      AccountFor steps entry ⟨2, 1, 2⟩ 0 (3 / 4) := by
  intro s entry steps
  have hentry : quarteredSquare.entryPoint ⟨1 / 2, 0⟩ ⟨2, 1, 2⟩ = entry := by
    rw [quarteredSquare.entryPoint_slanted]
    norm_num [entry]
  have hchord : chord entry ⟨2, 1, 2⟩ ⟨-1, -1⟩ ⟨1, 1⟩ = Set.Icc 0 (3 / 4) := by
    ext u
    simp only [chord, entry, Set.mem_ofPred_eq, Set.mem_Icc, Vec3.add_components, Vec3.mul_components]
    constructor
    · rintro ⟨⟨hu0, -⟩, ⟨-, hx⟩, -⟩
      exact ⟨hu0, by linarith⟩
    · rintro ⟨hu0, hu1⟩
      exact ⟨⟨hu0, by linarith⟩, ⟨by linarith, by linarith⟩, by linarith, by linarith⟩
  have hlarge : s.tolerance ≤ |(⟨2, 1, 2⟩ : Vec3 ℝ).unit.z| := by
    rw [quarteredSquare.unit_slanted]
    norm_num [s, abs_of_pos]
  have h := (steps_account_for_chord s quarteredSquare ⟨1 / 2, 0⟩ ⟨2, 1, 2⟩ (by norm_num [s])).2 hlarge
  rw [hentry, quarteredSquare.way_slanted, quarteredSquare.lowerCorner_eq, quarteredSquare.upperCorner_eq] at h
  obtain ⟨-, -, -, h⟩ := h
  obtain ⟨hiff, haccount⟩ := h (Or.inr (by norm_num [s])) (Or.inr (by norm_num [s]))
  have hlong : s.tolerance < 3 / 4 - 0 := by norm_num [s]
  exact ⟨hchord, hiff.2 ⟨0, 3 / 4, hchord, hlong⟩, haccount 0 (3 / 4) hchord hlong⟩

end PlanarStepper

end DetectorReadout
