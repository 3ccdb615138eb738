import Mathlib.Algebra.Order.Interval.Set.Instances
import Mathlib.Data.List.Sort
import DetectorReadout.Proofs.ClusterPosition

/-!
# The track in the opposite direction

Under exact arithmetic, a track and the track in the opposite direction have the same steps, in the opposite order and each from
its exit to its entry (`PlanarStepper.steps_neg`). The stepper is not written that way: it drops a cut because of the one before
it, and prolongs a step by the piece behind it. But no cut is dropped if the crossings of cell edges are further than the
tolerance from each other and from the ends (`PlanarStepper.WellSeparated.mem_cuts_iff`), and joining from the last piece back
to the first gives the same steps as from the first to the last (`PlanarStepper.join_reversed`).
-/

namespace DetectorReadout

/-- A point of a track, from the end of the track backwards. -/
theorem Vec3.add_add_neg_mul (start delta : Vec3 ℝ) (u : ℝ) : start + delta + -delta * u = start + delta * (1 - u) := by
  apply Vec3.ext <;> simp only [add_components, mul_components, neg_components] <;> ring

/-- The same step on the track in the opposite direction. -/
def Step.reversed {α : Type} (t : Step α) : Step α := { t with entry := t.exit, exit := t.entry }

namespace PlanarStepper

/-! ## Joining from both ends -/

section Join

variable {α : Type} [Scalar α]

/-- Some steps with a piece before them, joined to the first of them if it is in the same cell. -/
def attach (x : Step α) : List (Step α) → List (Step α)
  | [] => [x]
  | t :: steps => if x.cell.sameChannel t.cell then prolong x t :: steps else x :: t :: steps

/-- Some steps from the last to the first, with a piece behind them, joined to the last of them if it is in the same cell. -/
def push (x : Step α) : List (Step α) → List (Step α)
  | [] => [x]
  | t :: steps => if t.cell.sameChannel x.cell then prolong t x :: steps else x :: t :: steps

theorem push_append (x : Step α) {steps : List (Step α)} (h : steps ≠ []) (l : List (Step α)) :
    push x (steps ++ l) = push x steps ++ l := by
  cases steps with
  | nil => exact absurd rfl h
  | cons t steps =>
    rw [List.cons_append, push, push]
    split <;> rfl

theorem joinFrom_concat (first : Step α) (rest : List (Step α)) (x : Step α) :
    joinFrom first (rest ++ [x]) = (push x (joinFrom first rest).reverse).reverse := by
  induction rest generalizing first with
  | nil =>
    rw [List.nil_append, joinFrom, joinFrom, joinFrom, List.reverse_singleton, push]
    split <;> rfl
  | cons next rest ih =>
    have hne : (joinFrom next rest).reverse ≠ [] := by
      rw [ne_eq, List.reverse_eq_nil_iff]
      exact join_ne_nil (List.cons_ne_nil next rest)
    rw [List.cons_append, joinFrom, joinFrom]
    split
    · exact ih (prolong first next)
    · rw [ih next, List.reverse_cons, push_append x hne, List.reverse_append]
      rfl

/-- Joining comes to the last piece last. -/
theorem join_concat (l : List (Step α)) (x : Step α) : join (l ++ [x]) = (push x (join l).reverse).reverse := by
  cases l with
  | nil => rfl
  | cons first rest => exact joinFrom_concat first rest x

/-- The lengths add up in any order. -/
theorem prolong_prolong (x y t : Step ℝ) : prolong (prolong x y) t = prolong x (prolong y t) := by
  simp only [prolong, add_assoc]

theorem attach_prolong {x next : Step ℝ} (hsame : x.cell.sameChannel next.cell) (steps : List (Step ℝ)) :
    attach (prolong x next) steps = attach x (attach next steps) := by
  rw [sameChannel_iff_channels_eq] at hsame
  have hprolong : ∀ t, channels (prolong next t) = channels next := fun _ => rfl
  have hprolong' : channels (prolong x next) = channels x := rfl
  cases steps with
  | nil => simp [attach, sameChannel_iff_channels_eq, hsame]
  | cons t steps =>
    by_cases ht : channels next = channels t
    · simp [attach, sameChannel_iff_channels_eq, hsame, ht, hprolong, hprolong', prolong_prolong]
    · simp [attach, sameChannel_iff_channels_eq, hsame, ht, hprolong']

/-- Joining may come to the first piece last. -/
theorem join_cons (x : Step ℝ) (l : List (Step ℝ)) : join (x :: l) = attach x (join l) := by
  induction l generalizing x with
  | nil => rfl
  | cons next rest ih =>
    have hnext : joinFrom next rest = attach next (join rest) := ih next
    have hjoin : join (x :: next :: rest) =
      if x.cell.sameChannel next.cell then joinFrom (prolong x next) rest else x :: joinFrom next rest := rfl
    have hrest : join (next :: rest) = joinFrom next rest := rfl
    rw [hjoin, hrest]
    split
    · rename_i hsame
      rw [hnext, ← attach_prolong hsame]
      exact ih (prolong x next)
    · rename_i hother
      -- The first step of the rest is in the cell of the next piece.
      obtain ⟨head, tail, hcons, hchannels, -⟩ := joinFrom_eq_cons_isChain next rest
      rw [hcons, attach, if_neg]
      rwa [Cell.sameChannel_iff, hchannels.1, hchannels.2, ← Cell.sameChannel_iff]

/-- Prolonging a step backwards is prolonging it forwards on the opposite track, if both pieces know the middle of their cell. -/
theorem prolong_reversed {segmentation : Segmentation ℝ} {x t : Step ℝ} (hx : x.center = segmentation.cellCenter x.cell)
    (ht : t.center = segmentation.cellCenter t.cell) (hsame : x.cell.sameChannel t.cell) :
    prolong t.reversed x.reversed = (prolong x t).reversed := by
  obtain ⟨h0, h1⟩ := Cell.sameChannel_iff.1 hsame
  have hcenter : t.center = x.center := by rw [ht, hx, Segmentation.cellCenter, Segmentation.cellCenter, h0, h1]
  simp only [prolong, Step.reversed, h0, h1, hcenter, add_comm]

theorem push_reversed {segmentation : Segmentation ℝ} {x : Step ℝ} {steps : List (Step ℝ)}
    (hx : x.center = segmentation.cellCenter x.cell) (hsteps : ∀ t ∈ steps, t.center = segmentation.cellCenter t.cell) :
    push x.reversed (steps.map Step.reversed) = (attach x steps).map Step.reversed := by
  cases steps with
  | nil => rfl
  | cons t steps =>
    have hcells : t.reversed.cell.sameChannel x.reversed.cell ↔ x.cell.sameChannel t.cell := by
      rw [sameChannel_iff_channels_eq, sameChannel_iff_channels_eq]
      exact eq_comm
    rw [List.map_cons, push, attach]
    by_cases hsame : x.cell.sameChannel t.cell
    · rw [if_pos hsame, if_pos (hcells.2 hsame), List.map_cons,
        prolong_reversed hx (hsteps t List.mem_cons_self) hsame]
    · rw [if_neg hsame, if_neg fun h => hsame (hcells.1 h), List.map_cons, List.map_cons]

/-- The joined pieces of the opposite track are the joined pieces of the track, in the opposite order. -/
theorem join_reversed {segmentation : Segmentation ℝ} {l : List (Step ℝ)}
    (hl : ∀ t ∈ l, t.center = segmentation.cellCenter t.cell) :
    join (l.map Step.reversed).reverse = ((join l).map Step.reversed).reverse := by
  induction l with
  | nil => rfl
  | cons x l ih =>
    have hrest : ∀ t ∈ l, t.center = segmentation.cellCenter t.cell := fun t ht => hl t (List.mem_cons_of_mem x ht)
    have hjoined : ∀ t ∈ join l, t.center = segmentation.cellCenter t.cell :=
      forall_mem_join (fun _ _ hfirst => hfirst) hrest
    rw [List.map_cons, List.reverse_cons, join_concat, ih hrest, List.reverse_reverse,
      push_reversed (hl x List.mem_cons_self) hjoined, join_cons]

end Join

/-! ## Cuts -/

section Cuts

/-- A parameter, from zero to one, at which a part of a track reaches a cell edge along a coordinate with an extent. -/
def EdgeAt (s : PlanarStepper ℝ) (segmentation : Segmentation ℝ) (start delta : Vec3 ℝ) (u : ℝ) : Prop :=
  u ∈ Set.Icc 0 1 ∧ (s.CrossesAt start.x delta.x segmentation.x.edges.toList u ∨
    s.CrossesAt start.y delta.y segmentation.y.edges.toList u)

/-- Where a part of a track reaches cell edges is told from every other such point and from the ends. -/
structure WellSeparated (s : PlanarStepper ℝ) (segmentation : Segmentation ℝ) (start delta : Vec3 ℝ) : Prop where
  /-- Two of the parameters are the same or further than the tolerance from each other. -/
  apart : ∀ u v, s.EdgeAt segmentation start delta u → s.EdgeAt segmentation start delta v → u = v ∨ s.tolerance < |u - v|
  /-- One of the parameters is an end or further than the tolerance from both ends. -/
  inner : ∀ u, s.EdgeAt segmentation start delta u → u = 0 ∨ u = 1 ∨ s.tolerance < u ∧ u < 1 - s.tolerance

variable {s : PlanarStepper ℝ} {segmentation : Segmentation ℝ} {start delta : Vec3 ℝ}

theorem edgeAt_opposite {u : ℝ} :
    s.EdgeAt segmentation (start + delta) (-delta) u ↔ s.EdgeAt segmentation start delta (1 - u) := by
  have hcross : ∀ origin extent : ℝ, ∀ edges,
      s.CrossesAt (origin + extent) (-extent) edges u ↔ s.CrossesAt origin extent edges (1 - u) := by
    intro origin extent edges
    have hpoint : origin + extent + -extent * u = origin + extent * (1 - u) := by ring
    rw [CrossesAt, CrossesAt, abs_neg, hpoint]
  exact and_congr Set.Icc.mem_iff_one_sub_mem (or_congr (hcross _ _ _) (hcross _ _ _))

namespace WellSeparated

theorem opposite (h : s.WellSeparated segmentation start delta) :
    s.WellSeparated segmentation (start + delta) (-delta) where
  apart u v hu hv := by
    rcases h.apart _ _ (edgeAt_opposite.1 hu) (edgeAt_opposite.1 hv) with heq | hlt
    · exact Or.inl (sub_right_injective heq)
    · rw [sub_sub_sub_cancel_left, abs_sub_comm] at hlt
      exact Or.inr hlt
  inner u hu := by
    rcases h.inner _ (edgeAt_opposite.1 hu) with heq | heq | ⟨hlow, hhigh⟩
    · exact Or.inr (Or.inl (sub_eq_zero.1 heq).symm)
    · exact Or.inl (sub_eq_self.1 heq)
    · exact Or.inr (Or.inr ⟨by linarith, by linarith⟩)

/-- A track is cut at every edge. -/
theorem mem_cuts_iff (h : s.WellSeparated segmentation start delta) (h0 : 0 < s.tolerance) (h1 : s.tolerance < 1) {u : ℝ} :
    u ∈ 0 :: s.cuts start delta segmentation.x.edges.toList segmentation.y.edges.toList ↔
      u = 0 ∨ u = 1 ∨ s.EdgeAt segmentation start delta u := by
  have hcuts := cuts_eq_concat h0.le start delta segmentation.x.edges.toList segmentation.y.edges.toList h1
  -- Every cut but the ends is a crossing well inside the track.
  have hcut : ∀ k ∈ 0 :: s.cuts start delta segmentation.x.edges.toList segmentation.y.edges.toList,
      k = 0 ∨ k = 1 ∨ s.EdgeAt segmentation start delta k := by
    intro k hk
    rcases List.mem_cons.1 hk with hk | hk
    · exact Or.inl hk
    rw [hcuts] at hk
    rcases List.mem_append.1 hk with hk | hk
    · obtain ⟨hcross, hlow, hhigh⟩ := (mem_crossings_iff h0.le _ _ _ _).1 (s.mem_of_mem_thinFrom hk)
      exact Or.inr (Or.inr ⟨⟨by linarith, by linarith⟩, (crossesEdgeAt_iff h0).1 hcross⟩)
    · exact Or.inr (Or.inl (List.mem_singleton.1 hk))
  refine ⟨hcut u, ?_⟩
  have hone : (1 : ℝ) ∈ 0 :: s.cuts start delta segmentation.x.edges.toList segmentation.y.edges.toList := by simp [hcuts]
  rintro (rfl | rfl | hu)
  · exact List.mem_cons_self
  · exact hone
  rcases h.inner u hu with rfl | rfl | ⟨hlow, hhigh⟩
  · exact List.mem_cons_self
  · exact hone
  -- A cut within the tolerance can only be the crossing itself.
  obtain ⟨k, hk, hnear⟩ := exists_cut_near h0 start delta _ _ h1 hu.1.1 hu.1.2 (Or.inr (Or.inr hu.2))
  have hle := abs_le.1 hnear
  rcases hcut k hk with rfl | rfl | hedge
  · linarith
  · linarith
  · rcases h.apart u k hu hedge with rfl | hfar
    · exact hk
    · exact absurd hnear (not_le.2 hfar)

/-- The opposite track is cut at the same points. -/
theorem cuts_opposite (h : s.WellSeparated segmentation start delta) (h0 : 0 < s.tolerance) (h1 : s.tolerance < 1) :
    0 :: s.cuts (start + delta) (-delta) segmentation.x.edges.toList segmentation.y.edges.toList =
      ((0 :: s.cuts start delta segmentation.x.edges.toList segmentation.y.edges.toList).map fun u => 1 - u).reverse := by
  have hascending := (ascending_cuts h0 start delta segmentation.x.edges.toList segmentation.y.edges.toList h1).pairwise
  refine List.Pairwise.eq_of_mem_iff (r := (· < ·)) (ascending_cuts h0 _ _ _ _ h1).pairwise ?_ fun u => ?_
  · rw [List.pairwise_reverse, List.pairwise_map]
    exact hascending.imp fun hlt => sub_lt_sub_left hlt 1
  · have hmem : u ∈ (0 :: s.cuts start delta segmentation.x.edges.toList segmentation.y.edges.toList).map (fun v => 1 - v) ↔
        1 - u ∈ 0 :: s.cuts start delta segmentation.x.edges.toList segmentation.y.edges.toList := by
      rw [List.mem_map]
      constructor
      · rintro ⟨v, hv, rfl⟩
        rwa [sub_sub_cancel]
      · exact fun hv => ⟨1 - u, hv, sub_sub_cancel 1 u⟩
    rw [List.mem_reverse, hmem, h.opposite.mem_cuts_iff h0 h1, h.mem_cuts_iff h0 h1, edgeAt_opposite, sub_eq_zero, sub_eq_self,
      eq_comm (a := (1 : ℝ)), or_left_comm]

end WellSeparated

end Cuts

/-! ## Pieces -/

section Pieces

/-- The pairs of neighbours of a list in the opposite order. -/
theorem zip_tail_reverse {β : Type} (l : List β) : l.reverse.zip l.reverse.tail = ((l.zip l.tail).map Prod.swap).reverse := by
  refine List.ext_getElem (by simp) fun i hi hi' => ?_
  have hlt : i < l.length - 1 := by simpa using hi
  simp only [List.getElem_zip, List.getElem_reverse, List.getElem_tail, List.getElem_map, Prod.swap, List.length_map,
    List.length_zip, List.length_tail]
  congr 2 <;> omega

/-- The piece of the opposite track between two parameters. -/
theorem piece_opposite (segmentation : Segmentation ℝ) (start delta : Vec3 ℝ) (length before after : ℝ) :
    piece segmentation (start + delta) (-delta) length (1 - after) (1 - before) =
      (piece segmentation start delta length before after).reversed := by
  have hmiddle : 1 - 0.5 * (1 - after + (1 - before)) = 0.5 * (before + after) := by ring
  have hlength : (1 - before - (1 - after)) * length = (after - before) * length := by ring
  simp only [piece, Step.reversed, Vec3.add_add_neg_mul, hmiddle, hlength, sub_sub_cancel]

theorem pieces_opposite (segmentation : Segmentation ℝ) (start delta : Vec3 ℝ) (length : ℝ) {cuts cuts' : List ℝ}
    (h : 0 :: cuts' = ((0 :: cuts).map fun u => 1 - u).reverse) :
    pieces segmentation (start + delta) (-delta) length cuts' =
      ((pieces segmentation start delta length cuts).map Step.reversed).reverse := by
  have hpieces : ∀ start delta cuts, pieces segmentation start delta length cuts =
      ((0 :: cuts).zip (0 :: cuts).tail).map fun (before, after) => piece segmentation start delta length before after :=
    fun _ _ _ => rfl
  rw [hpieces, hpieces, h, zip_tail_reverse, ← List.map_tail, List.zip_map, List.map_reverse, List.map_map, List.map_map,
    List.map_map]
  congr 1
  exact List.map_congr_left fun pair _ => piece_opposite segmentation start delta length pair.1 pair.2

end Pieces

end PlanarStepper

/-! ## The opposite track through a sensor -/

namespace ReadoutModule

variable (module : ReadoutModule ℝ) (position : Vec2 ℝ) (direction : Vec3 ℝ)

theorem entryPoint_neg :
    module.entryPoint position (-direction) = module.entryPoint position direction + module.way direction := by
  rw [entryPoint, entryPoint, way, Vec3.unit_neg, (Vec3.neg_components _).2.2, abs_neg]
  apply Vec3.ext <;> simp only [Vec3.add_components, Vec3.mul_components, Vec3.neg_components] <;> ring

theorem way_neg : module.way (-direction) = -module.way direction := by
  rw [way, way, Vec3.unit_neg, (Vec3.neg_components _).2.2, abs_neg]
  apply Vec3.ext <;> simp only [Vec3.mul_components, Vec3.neg_components, neg_mul]

end ReadoutModule

theorem chord_opposite {start way : Vec3 ℝ} {lower upper : Vec2 ℝ} {a b : ℝ}
    (h : chord start way lower upper = Set.Icc a b) : chord (start + way) (-way) lower upper = Set.Icc (1 - b) (1 - a) := by
  have hpreimage : chord (start + way) (-way) lower upper = Set.preimage (fun u => 1 - u) (chord start way lower upper) := by
    ext u
    simp only [chord, Vec3.add_add_neg_mul, Set.mem_preimage, Set.mem_ofPred_eq]
    exact and_congr_left fun _ => Set.Icc.mem_iff_one_sub_mem
  rw [hpreimage, h, Set.preimage_const_sub_Icc]

namespace PlanarStepper

section Steps

variable {s : PlanarStepper ℝ} {module : ReadoutModule ℝ} {position : Vec2 ℝ} {direction : Vec3 ℝ}

section Extents

variable (h0 : 0 < s.tolerance) (hx : (module.way direction).x = 0 ∨ s.tolerance ≤ |(module.way direction).x|)
  (hy : (module.way direction).y = 0 ∨ s.tolerance ≤ |(module.way direction).y|)

include h0 hx hy

/-- The same part of the opposite track is left. -/
theorem clippedTrack?_neg_of_eq_some {start delta : Vec3 ℝ}
    (h : s.clippedTrack? module position direction = some (start, delta)) :
    s.clippedTrack? module position (-direction) = some (start + delta, -delta) := by
  obtain ⟨hlarge, a, b, hclip, rfl, rfl⟩ := (clippedTrack?_eq_some_iff h0).1 h
  obtain ⟨hchord, hlong⟩ := (clip_eq_some_iff h0 hx hy).1 hclip
  have hx' : (-module.way direction).x = 0 ∨ s.tolerance ≤ |(-module.way direction).x| := by simpa using hx
  have hy' : (-module.way direction).y = 0 ∨ s.tolerance ≤ |(-module.way direction).y| := by simpa using hy
  have hlong' : s.tolerance < 1 - a - (1 - b) := by linarith
  rw [clippedTrack?_eq_some_iff h0, Vec3.unit_neg, (Vec3.neg_components _).2.2, abs_neg,
    module.entryPoint_neg, module.way_neg]
  refine ⟨hlarge, 1 - b, 1 - a, (clip_eq_some_iff h0 hx' hy').2 ⟨chord_opposite hchord, hlong'⟩, ?_, ?_⟩
  · rw [Vec3.add_add_neg_mul, sub_sub_cancel]
    apply Vec3.ext <;> simp only [Vec3.add_components, Vec3.mul_components] <;> ring
  · apply Vec3.ext <;> simp only [Vec3.neg_components, Vec3.mul_components] <;> ring

variable (position) in
theorem clippedTrack?_neg : s.clippedTrack? module position (-direction) =
    (s.clippedTrack? module position direction).map fun track => (track.1 + track.2, -track.2) := by
  cases htrack : s.clippedTrack? module position direction with
  | some track => exact clippedTrack?_neg_of_eq_some h0 hx hy htrack
  | none =>
    -- If a part of the opposite track were left, so would be a part of the track opposite to that one, which is the first.
    rw [Option.map_none, Option.eq_none_iff_forall_ne_some]
    rintro ⟨start, delta⟩ hopposite
    have hx' : (module.way (-direction)).x = 0 ∨ s.tolerance ≤ |(module.way (-direction)).x| := by
      simpa [module.way_neg] using hx
    have hy' : (module.way (-direction)).y = 0 ∨ s.tolerance ≤ |(module.way (-direction)).y| := by
      simpa [module.way_neg] using hy
    have hneg : - -direction = direction := by apply Vec3.ext <;> simp
    have hback := clippedTrack?_neg_of_eq_some h0 hx' hy' hopposite
    rw [hneg, htrack] at hback
    nomatch hback

end Extents

theorem stepsAlong_opposite {segmentation : Segmentation ℝ} {start delta : Vec3 ℝ} (h0 : 0 < s.tolerance)
    (h1 : s.tolerance < 1) (h : s.WellSeparated segmentation start delta) :
    s.stepsAlong segmentation (start + delta) (-delta) =
      ((s.stepsAlong segmentation start delta).map Step.reversed).reverse := by
  rw [stepsAlong, stepsAlong, Vec3.length_neg,
    pieces_opposite segmentation start delta delta.length (h.cuts_opposite h0 h1)]
  exact join_reversed fun t ht => (of_mem_pieces ht).2

theorem steps_opposite (h0 : 0 < s.tolerance)
    (hx : (module.way direction).x = 0 ∨ s.tolerance ≤ |(module.way direction).x|)
    (hy : (module.way direction).y = 0 ∨ s.tolerance ≤ |(module.way direction).y|)
    (hseparated : ∀ start delta, s.clippedTrack? module position direction = some (start, delta) →
      s.WellSeparated module.segmentation start delta) :
    s.steps module position (-direction) = ((s.steps module position direction).map Step.reversed).reverse := by
  have hopposite := clippedTrack?_neg position h0 hx hy
  cases htrack : s.clippedTrack? module position direction with
  | none =>
    rw [htrack] at hopposite
    rw [steps_of_clippedTrack?_eq_none hopposite, steps_of_clippedTrack?_eq_none htrack]
    rfl
  | some track =>
    rw [htrack] at hopposite
    have h1 := tolerance_lt_one_of_clippedTrack? h0 htrack
    rw [steps_of_clippedTrack?_eq_some hopposite, steps_of_clippedTrack?_eq_some htrack]
    exact stepsAlong_opposite h0 h1 (hseparated _ _ htrack)

end Steps

/-! ## A track that crosses two edges -/

/-- Where a slanted track above the square sensor reaches an edge: at its ends, and inside at a quarter and at a half. -/
theorem edgeAt_slanted {u : ℝ}
    (h : EdgeAt ⟨1 / 10⟩ quarteredSquare.segmentation ⟨-1, 1 / 4 - 1 / 2, -1⟩ ⟨2, 1, 2⟩ u) :
    u = 0 ∨ u = 1 / 4 ∨ u = 1 / 2 ∨ u = 1 := by
  obtain ⟨⟨hlow, hhigh⟩, ⟨-, hx⟩ | ⟨-, hy⟩⟩ := h
  · have hedge : -1 + 2 * u ∈ [(-1 : ℝ), 0, 1] := by
      rw [quarteredSquare.edges_x] at hx
      exact hx
    simp only [List.mem_cons, List.not_mem_nil, or_false] at hedge
    rcases hedge with hx | hx | hx
    · exact Or.inl (by linarith)
    · exact Or.inr (Or.inr (Or.inl (by linarith)))
    · exact Or.inr (Or.inr (Or.inr (by linarith)))
  · have hedge : 1 / 4 - 1 / 2 + 1 * u ∈ [(-1 : ℝ), 0, 1] := hy
    simp only [List.mem_cons, List.not_mem_nil, or_false] at hedge
    rcases hedge with hy | hy | hy
    · linarith
    · exact Or.inr (Or.inl (by linarith))
    · linarith

theorem wellSeparated_slanted :
    WellSeparated ⟨1 / 10⟩ quarteredSquare.segmentation ⟨-1, 1 / 4 - 1 / 2, -1⟩ ⟨2, 1, 2⟩ where
  apart u v hu hv := by
    rcases edgeAt_slanted hu with rfl | rfl | rfl | rfl <;> rcases edgeAt_slanted hv with rfl | rfl | rfl | rfl <;>
      norm_num [abs_of_pos, abs_of_neg]
  inner u hu := by
    rcases edgeAt_slanted hu with rfl | rfl | rfl | rfl <;> norm_num

/-! ## Clusters -/

/-- Neither the order of the steps nor their sense matters for the position. -/
theorem centroid_reversed (steps : List (Step ℝ)) : centroid (steps.map Step.reversed).reverse = centroid steps := by
  rw [centroid_eq_of_perm (List.reverse_perm _)]
  simp only [centroid_eq, weightedMean, List.map_map]
  rfl

theorem ofSteps_reversed (surface : Surface ℝ) (module : ReadoutModule ℝ) (thickness : ℝ) (origin : ClusterOrigin) (time : ℝ)
    (steps : List (Step ℝ)) :
    Cluster.ofSteps surface module thickness origin time (steps.map Step.reversed).reverse =
      (Cluster.ofSteps surface module thickness origin time steps).map fun c => { c with cells := c.cells.reverse } := by
  rw [Cluster.ofSteps, Cluster.ofSteps, centroid_reversed, Option.map_map]
  congr 1
  funext mean
  simp only [Function.comp_apply, List.map_reverse, List.map_map]
  rfl

/-- Under exact arithmetic, if each extent of the track through the sensor is zero or not neglected, and the points where the
clipped track reaches cell edges are told from each other and from its ends, the track in the opposite direction has the same
steps in the opposite order, each from its exit to its entry. Its cluster is the same, but for the order of the cells. -/
theorem steps_neg (s : PlanarStepper ℝ) (module : ReadoutModule ℝ) (position : Vec2 ℝ) (direction : Vec3 ℝ)
    (h0 : 0 < s.tolerance) (hx : (module.way direction).x = 0 ∨ s.tolerance ≤ |(module.way direction).x|)
    (hy : (module.way direction).y = 0 ∨ s.tolerance ≤ |(module.way direction).y|)
    (hseparated : ∀ start delta, s.clippedTrack? module position direction = some (start, delta) →
      s.WellSeparated module.segmentation start delta) :
    s.steps module position (-direction) = ((s.steps module position direction).map Step.reversed).reverse ∧
      ∀ surface thickness origin time,
        Cluster.ofSteps surface module thickness origin time (s.steps module position (-direction)) =
          (Cluster.ofSteps surface module thickness origin time (s.steps module position direction)).map fun c =>
            { c with cells := c.cells.reverse } := by
  have hsteps := steps_opposite h0 hx hy hseparated
  refine ⟨hsteps, fun surface thickness origin time => ?_⟩
  rw [hsteps, ofSteps_reversed]

/-- A slanted track through the square sensor and the track in the opposite direction: the steps of one are those of the other
from the last to the first, and both give the same channel. -/
theorem steps_neg_slanted :
    let s : PlanarStepper ℝ := ⟨1 / 10⟩
    let steps := s.steps quarteredSquare ⟨0, 1 / 4⟩ ⟨2, 1, 2⟩
    let opposite := s.steps quarteredSquare ⟨0, 1 / 4⟩ ⟨-2, -1, -2⟩
    steps ≠ [] ∧ opposite = (steps.map Step.reversed).reverse ∧
      (Cluster.ofSteps ⟨⟨1⟩, .fixed .identity⟩ quarteredSquare 2 ⟨7, []⟩ 0 opposite).map Cluster.channel =
        (Cluster.ofSteps ⟨⟨1⟩, .fixed .identity⟩ quarteredSquare 2 ⟨7, []⟩ 0 steps).map Cluster.channel := by
  intro s steps opposite
  have h0 : (0 : ℝ) < 1 / 10 := by norm_num
  have htrack : s.clippedTrack? quarteredSquare ⟨0, 1 / 4⟩ ⟨2, 1, 2⟩ = some (⟨-1, 1 / 4 - 1 / 2, -1⟩, ⟨2, 1, 2⟩) :=
    clippedTrack?_slanted_at (by norm_num)
  have hx : s.tolerance ≤ |(quarteredSquare.way ⟨2, 1, 2⟩).x| := by
    rw [quarteredSquare.way_slanted]
    norm_num [s]
  have hy : s.tolerance ≤ |(quarteredSquare.way ⟨2, 1, 2⟩).y| := by
    rw [quarteredSquare.way_slanted]
    norm_num [s]
  have hseparated : ∀ start delta, s.clippedTrack? quarteredSquare ⟨0, 1 / 4⟩ ⟨2, 1, 2⟩ = some (start, delta) →
      s.WellSeparated quarteredSquare.segmentation start delta := by
    intro start delta h
    rw [htrack] at h
    cases h
    exact wellSeparated_slanted
  obtain ⟨hsteps, hcluster⟩ := steps_neg s quarteredSquare ⟨0, 1 / 4⟩ ⟨2, 1, 2⟩ h0 (Or.inr hx) (Or.inr hy) hseparated
  refine ⟨(steps_ne_nil_iff h0).2 ⟨_, htrack⟩, hsteps, ?_⟩
  have hchannel := congrArg (Option.map Cluster.channel) (hcluster ⟨⟨1⟩, .fixed .identity⟩ 2 ⟨7, []⟩ 0)
  rw [Option.map_map] at hchannel
  exact hchannel

end PlanarStepper

end DetectorReadout
