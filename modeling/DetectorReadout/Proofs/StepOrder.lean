import Mathlib.Data.List.Perm.Subperm
import DetectorReadout.Proofs.ChordLength

/-!
# The order of the steps

Under exact arithmetic, the middles of the pieces of a track advance along the track, and the lookup of a bin is monotone, so
the bins of the steps advance with the signs of the direction (`PlanarStepper.advance_stepsAlong`). Neighbours differ, so a
track enters no cell twice, and it enters at most one cell for each bin that it can still reach
(`PlanarStepper.steps_cross_cells_in_order`).
-/

namespace DetectorReadout

/-- The bins of a cell come before those of another one, or are the same, on a track in a direction. -/
structure Advance (direction : Vec3 ℝ) (c d : Nat × Nat) : Prop where
  up_x : 0 ≤ direction.x → c.1 ≤ d.1
  down_x : direction.x ≤ 0 → d.1 ≤ c.1
  up_y : 0 ≤ direction.y → c.2 ≤ d.2
  down_y : direction.y ≤ 0 → d.2 ≤ c.2

namespace Advance

/-! ## Cells counted along a direction -/

/-- How many bins a track has behind it in a cell of a grid: those below if it goes up, and those above if it goes down. -/
noncomputable def rank (direction : Vec3 ℝ) (bins c : Nat × Nat) : Nat :=
  (if 0 ≤ direction.x then c.1 else bins.1 - 1 - c.1) + (if 0 ≤ direction.y then c.2 else bins.2 - 1 - c.2)

variable {direction : Vec3 ℝ} {bins c d : Nat × Nat}

theorem rank_le (h : Advance direction c d) : rank direction bins c ≤ rank direction bins d := by
  unfold rank
  refine Nat.add_le_add ?_ ?_
  · split
    · rename_i hx
      exact h.up_x hx
    · rename_i hx
      have := h.down_x (not_le.1 hx).le
      omega
  · split
    · rename_i hy
      exact h.up_y hy
    · rename_i hy
      have := h.down_y (not_le.1 hy).le
      omega

/-- A cell that differs from the one before it has more bins behind it. -/
theorem rank_lt (h : Advance direction c d) (hne : c ≠ d) (hc : c.1 < bins.1 ∧ c.2 < bins.2) :
    rank direction bins c < rank direction bins d := by
  have hdiffer : c.1 ≠ d.1 ∨ c.2 ≠ d.2 := by
    by_contra! hsame
    exact hne (Prod.ext hsame.1 hsame.2)
  have hx : (0 ≤ direction.x ∧ c.1 ≤ d.1) ∨ (¬ 0 ≤ direction.x ∧ d.1 ≤ c.1) := by
    by_cases hx : 0 ≤ direction.x
    · exact Or.inl ⟨hx, h.up_x hx⟩
    · exact Or.inr ⟨hx, h.down_x (not_le.1 hx).le⟩
  have hy : (0 ≤ direction.y ∧ c.2 ≤ d.2) ∨ (¬ 0 ≤ direction.y ∧ d.2 ≤ c.2) := by
    by_cases hy : 0 ≤ direction.y
    · exact Or.inl ⟨hy, h.up_y hy⟩
    · exact Or.inr ⟨hy, h.down_y (not_le.1 hy).le⟩
  unfold rank
  rcases hx with ⟨hx, hx'⟩ | ⟨hx, hx'⟩ <;> rcases hy with ⟨hy, hy'⟩ | ⟨hy, hy'⟩ <;>
    simp only [hx, hy, if_true, if_false] <;> omega

theorem rank_lt_bins (hc : c.1 < bins.1 ∧ c.2 < bins.2) : rank direction bins c < bins.1 + bins.2 - 1 := by
  unfold rank
  split <;> split <;> omega

variable {l : List (Nat × Nat)}

/-- Along cells that advance, with neighbours that differ, more and more bins are left behind. -/
theorem pairwise_rank_lt (hadvance : l.Pairwise (Advance direction)) (hchain : l.IsChain (· ≠ ·))
    (hbins : ∀ c ∈ l, c.1 < bins.1 ∧ c.2 < bins.2) :
    l.Pairwise fun c d => rank direction bins c < rank direction bins d := by
  induction l with
  | nil => exact List.Pairwise.nil
  | cons c l ih =>
    obtain ⟨hc, hl⟩ := List.pairwise_cons.1 hadvance
    have hrest := ih hl (List.isChain_cons.1 hchain).2 fun d hd => hbins d (List.mem_cons_of_mem c hd)
    refine List.pairwise_cons.2 ⟨fun e he => ?_, hrest⟩
    cases l with
    | nil => exact absurd he List.not_mem_nil
    | cons d l =>
      have hnext : rank direction bins c < rank direction bins d :=
        (hc d List.mem_cons_self).rank_lt (List.isChain_cons_cons.1 hchain).1 (hbins c List.mem_cons_self)
      rcases List.mem_cons.1 he with rfl | he
      · exact hnext
      · exact hnext.trans_le ((List.pairwise_cons.1 hl).1 e he).rank_le

/-- Values below `n` that ascend are at most `n`. -/
theorem length_le_of_pairwise_lt {f : Nat × Nat → Nat} {n : Nat} (h : l.Pairwise fun c d => f c < f d)
    (hn : ∀ c ∈ l, f c < n) : l.length ≤ n := by
  have hnodup : (l.map f).Nodup := List.pairwise_map.2 (h.imp Nat.ne_of_lt)
  have hsub : l.map f ⊆ List.range n := by
    intro k hk
    obtain ⟨c, hc, rfl⟩ := List.mem_map.1 hk
    exact List.mem_range.2 (hn c hc)
  simpa using (List.subperm_of_subset hnodup hsub).length_le

end Advance

namespace PlanarStepper

/-! ## Steps along a part of a track -/

section Along

/-- The bin along a coordinate advances with its sign. -/
theorem bin_advance {b : Binning ℝ} (hb : b.Regular) (hclamp : b.overflow = .clamp) (origin extent : ℝ) {u v : ℝ}
    (h : u ≤ v) :
    (0 ≤ extent → b.bin (origin + extent * u) ≤ b.bin (origin + extent * v)) ∧
      (extent ≤ 0 → b.bin (origin + extent * v) ≤ b.bin (origin + extent * u)) := by
  constructor
  · intro hextent
    exact b.bin_mono hb hclamp ((add_le_add_iff_left origin).2 (mul_le_mul_of_nonneg_left h hextent))
  · intro hextent
    exact b.bin_mono hb hclamp ((add_le_add_iff_left origin).2 (mul_le_mul_of_nonpos_left h hextent))

variable {s : PlanarStepper ℝ} (h0 : 0 < s.tolerance) (h1 : s.tolerance < 1) (segmentation : Segmentation ℝ)
  (start delta : Vec3 ℝ)

include h0 h1

variable {segmentation} {delta}

/-- The cells of the steps advance in the direction of the track. -/
theorem advance_stepsAlong (hx : segmentation.x.Regular) (hxclamp : segmentation.x.overflow = .clamp)
    (hy : segmentation.y.Regular) (hyclamp : segmentation.y.overflow = .clamp) {direction : Vec3 ℝ} {k : ℝ} (hk : 0 < k)
    (hdelta : delta = direction * k) :
    ((s.stepsAlong segmentation start delta).map channels).Pairwise (Advance direction) := by
  refine List.Pairwise.sublist (map_channels_join_sublist _) (List.pairwise_map.2 ?_)
  rw [pieces_eq]
  refine pairwise_piecesFrom segmentation start delta delta.length ?_ (ascending_cuts h0 start delta _ _ h1)
  intro a b c d hab hbc hcd
  have hmiddle : (a + b) / 2 ≤ (c + d) / 2 := by linarith
  have hadvx := bin_advance hx hxclamp start.x delta.x hmiddle
  have hadvy := bin_advance hy hyclamp start.y delta.y hmiddle
  have hdx : delta.x = direction.x * k := by rw [hdelta, (Vec3.mul_components _ _).1]
  have hdy : delta.y = direction.y * k := by rw [hdelta, (Vec3.mul_components _ _).2.1]
  rw [channels_piece, channels_piece]
  constructor
  · exact fun h => hadvx.1 (hdx ▸ mul_nonneg h hk.le)
  · exact fun h => hadvx.2 (hdx ▸ mul_nonpos_of_nonpos_of_nonneg h hk.le)
  · exact fun h => hadvy.1 (hdy ▸ mul_nonneg h hk.le)
  · exact fun h => hadvy.2 (hdy ▸ mul_nonpos_of_nonpos_of_nonneg h hk.le)

variable (segmentation) in
/-- Each step has a length and leads that far along the direction of the track. -/
theorem straight_stepsAlong {unit : Vec3 ℝ} {r : ℝ} (hr : 0 < r) (hdelta : delta = unit * r) (hlength : delta.length = r) :
    ∀ t ∈ s.stepsAlong segmentation start delta, 0 < t.length ∧ t.exit = t.entry + unit * t.length := by
  unfold stepsAlong
  rw [pieces_eq]
  refine forall_mem_join_of_isChain ?_ (isChain_piecesFrom _ _ _ _ _ _) ?_
  · rintro t t' hmeet ⟨hpos, hexit⟩ ⟨hpos', hexit'⟩
    refine ⟨add_pos hpos hpos', ?_⟩
    change t'.exit = t.entry + unit * (t.length + t'.length)
    rw [hexit', ← hmeet, hexit]
    apply Vec3.ext <;> simp only [Vec3.add_components, Vec3.mul_components] <;> ring
  · intro t ht
    obtain ⟨before, after, -, hlt, rfl⟩ := exists_of_mem_piecesFrom _ _ _ _ (ascending_cuts h0 start delta _ _ h1) ht
    rw [hlength]
    refine ⟨mul_pos (sub_pos.2 hlt) hr, ?_⟩
    change start + delta * after = start + delta * before + unit * ((after - before) * r)
    rw [hdelta]
    apply Vec3.ext <;> simp only [Vec3.add_components, Vec3.mul_components] <;> ring

end Along

/-! ## Steps of a track -/

section Steps

variable {s : PlanarStepper ℝ} {module : ReadoutModule ℝ} {position : Vec2 ℝ} {direction : Vec3 ℝ}

/-- The clipped track goes in the direction of the track. -/
theorem exists_pos_of_clippedTrack? (h0 : 0 < s.tolerance) {start delta : Vec3 ℝ}
    (h : s.clippedTrack? module position direction = some (start, delta)) :
    (∃ k : ℝ, 0 < k ∧ delta = direction * k) ∧ ∃ r : ℝ, 0 < r ∧ delta = direction.unit * r ∧ delta.length = r := by
  obtain ⟨hlarge, a, b, hclip, -, hdelta⟩ := (clippedTrack?_eq_some_iff h0).1 h
  have hz : direction.unit.z ≠ 0 := abs_pos.1 (h0.trans_le hlarge)
  have hne := ReadoutModule.direction_ne_zero_of_unit_z hz
  have hlength := direction.length_pos_iff.2 hne
  have hspan : 0 < b - a := h0.trans (of_clip_eq_some hclip).2.2
  have hr : 0 < 2 * module.halfThickness / |direction.unit.z| * (b - a) :=
    mul_pos (div_pos (mul_pos two_pos module.halfThickness_pos) (abs_pos.2 hz)) hspan
  have hunit : delta = direction.unit * (2 * module.halfThickness / |direction.unit.z| * (b - a)) := by
    rw [hdelta, ReadoutModule.way_eq]
    apply Vec3.ext <;> simp only [Vec3.mul_components] <;> ring
  refine ⟨⟨1 / direction.length * (2 * module.halfThickness / |direction.unit.z| * (b - a)),
    mul_pos (one_div_pos.2 hlength) hr, ?_⟩, _, hr, hunit, ?_⟩
  · rw [hunit, Vec3.unit_of_ne_zero hne]
    apply Vec3.ext <;> simp only [Vec3.mul_components] <;> ring
  · rw [hunit, Vec3.length_mul, Vec3.length_unit hne, mul_one, abs_of_pos hr]

variable (position direction) (h0 : 0 < s.tolerance) (h1 : s.tolerance < 1)

include h0 h1

theorem advance_steps (hx : module.segmentation.x.Regular) (hxclamp : module.segmentation.x.overflow = .clamp)
    (hy : module.segmentation.y.Regular) (hyclamp : module.segmentation.y.overflow = .clamp) :
    ((s.steps module position direction).map channels).Pairwise (Advance direction) := by
  cases htrack : s.clippedTrack? module position direction with
  | none =>
    rw [steps_of_clippedTrack?_eq_none htrack]
    exact List.Pairwise.nil
  | some track =>
    obtain ⟨⟨k, hk, hdelta⟩, -⟩ := exists_pos_of_clippedTrack? h0 htrack
    rw [steps_of_clippedTrack?_eq_some htrack]
    exact advance_stepsAlong h0 h1 track.1 hx hxclamp hy hyclamp hk hdelta

variable (module) in
theorem straight_steps :
    ∀ t ∈ s.steps module position direction, 0 < t.length ∧ t.exit = t.entry + direction.unit * t.length := by
  cases htrack : s.clippedTrack? module position direction with
  | none =>
    rw [steps_of_clippedTrack?_eq_none htrack]
    exact fun t ht => absurd ht List.not_mem_nil
  | some track =>
    obtain ⟨-, r, hr, hdelta, hlength⟩ := exists_pos_of_clippedTrack? h0 htrack
    rw [steps_of_clippedTrack?_eq_some htrack]
    exact straight_stepsAlong h0 h1 module.segmentation track.1 hr hdelta hlength

end Steps

/-- Under exact arithmetic, on a module with values outside cut off, the bins of the steps never turn back against the
direction of the track, no cell is entered twice, each step has a length and leads that far along the direction, and there are
at most as many steps as bins along both coordinates, less one. -/
theorem steps_cross_cells_in_order (s : PlanarStepper ℝ) (module : ReadoutModule ℝ) (position : Vec2 ℝ)
    (direction : Vec3 ℝ) (h0 : 0 < s.tolerance) (h1 : s.tolerance < 1)
    (hx : module.segmentation.x.Constructed) (hxclamp : module.segmentation.x.overflow = .clamp)
    (hy : module.segmentation.y.Constructed) (hyclamp : module.segmentation.y.overflow = .clamp) :
    let steps := s.steps module position direction
    ((0 ≤ direction.x → steps.Pairwise fun t t' => t.cell.channel0 ≤ t'.cell.channel0) ∧
        (direction.x ≤ 0 → steps.Pairwise fun t t' => t'.cell.channel0 ≤ t.cell.channel0) ∧
        (0 ≤ direction.y → steps.Pairwise fun t t' => t.cell.channel1 ≤ t'.cell.channel1) ∧
        (direction.y ≤ 0 → steps.Pairwise fun t t' => t'.cell.channel1 ≤ t.cell.channel1)) ∧
      (steps.Pairwise fun t t' => ¬ t.cell.sameChannel t'.cell) ∧
      (∀ t ∈ steps, 0 < t.length ∧ t.exit = t.entry + direction.unit * t.length) ∧
      steps.length ≤ module.segmentation.x.bins + module.segmentation.y.bins - 1 := by
  intro steps
  have hadvance : (steps.map channels).Pairwise (Advance direction) :=
    advance_steps position direction h0 h1 hx.regular hxclamp hy.regular hyclamp
  have hchain : (steps.map channels).IsChain (· ≠ ·) := by
    rw [List.isChain_map]
    exact (s.isChain_steps module position direction).imp fun t t' h hsame => h (sameChannel_iff_channels_eq.2 hsame)
  have hbins : ∀ c ∈ steps.map channels, c.1 < module.segmentation.x.bins ∧ c.2 < module.segmentation.y.bins := by
    intro c hc
    obtain ⟨t, ht, rfl⟩ := List.mem_map.1 hc
    exact cell_lt_of_mem_steps ht
  have hrank : (steps.map channels).Pairwise fun c d =>
      Advance.rank direction module.segmentation.channels c < Advance.rank direction module.segmentation.channels d :=
    Advance.pairwise_rank_lt hadvance hchain hbins
  have hpairs := List.pairwise_map.1 hadvance
  refine ⟨⟨fun h => hpairs.imp fun hadv => hadv.up_x h, fun h => hpairs.imp fun hadv => hadv.down_x h,
    fun h => hpairs.imp fun hadv => hadv.up_y h, fun h => hpairs.imp fun hadv => hadv.down_y h⟩, ?_,
    straight_steps module position direction h0 h1, ?_⟩
  · refine (List.pairwise_map.1 hrank).imp fun hlt hsame => ?_
    rw [sameChannel_iff_channels_eq.1 hsame] at hlt
    exact lt_irrefl _ hlt
  · have hlength := Advance.length_le_of_pairwise_lt hrank fun c hc => Advance.rank_lt_bins (hbins c hc)
    rwa [List.length_map] at hlength

/-- A slanted track through the square sensor, close to the corner where its cells meet, has steps, at most three, and their cells
go up along both coordinates. -/
theorem steps_cross_cells_in_order_slanted :
    let steps := (⟨1 / 10⟩ : PlanarStepper ℝ).steps quarteredSquare ⟨0, 1 / 20⟩ ⟨2, 1, 2⟩
    steps ≠ [] ∧ (steps.Pairwise fun t t' => t.cell.channel0 ≤ t'.cell.channel0) ∧
      (steps.Pairwise fun t t' => t.cell.channel1 ≤ t'.cell.channel1) ∧
      (steps.Pairwise fun t t' => ¬ t.cell.sameChannel t'.cell) ∧
      (∀ t ∈ steps, 0 < t.length ∧ t.exit = t.entry + (⟨2 / 3, 1 / 3, 2 / 3⟩ : Vec3 ℝ) * t.length) ∧
      steps.length ≤ 3 := by
  intro steps
  have h0 : (0 : ℝ) < 1 / 10 := by norm_num
  have h := steps_cross_cells_in_order ⟨1 / 10⟩ quarteredSquare ⟨0, 1 / 20⟩ ⟨2, 1, 2⟩ h0 (by norm_num)
    quarteredSquare.constructed_x rfl quarteredSquare.constructed_y rfl
  rw [quarteredSquare.unit_slanted] at h
  obtain ⟨⟨hx, -, hy, -⟩, hdistinct, hstraight, hlength⟩ := h
  rw [quarteredSquare.bins_x, quarteredSquare.bins_y] at hlength
  exact ⟨(steps_ne_nil_iff h0).2 ⟨_, clippedTrack?_slanted⟩, hx zero_le_two, hy zero_le_one, hdistinct, hstraight, hlength⟩

end PlanarStepper

end DetectorReadout
