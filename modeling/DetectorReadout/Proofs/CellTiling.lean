import DetectorReadout.Proofs.ChordLength
import DetectorReadout.Proofs.ContainingBin

/-!
# Cells tile the module

Under exact arithmetic, a value of the range of a binning is in the bin that holds it, also if the range is a circle, because
there such a value stands for itself (`Binning.lookupValue_of_mem_range`). So the middle of a bin is in this bin
(`Binning.bin_center`). Taken for both coordinates, this says that the cells of a segmentation cover its rectangle without
overlap, and that the lookup of a position and the middle of a cell undo each other (`Segmentation.cells_tile_module`). A
segmentation looks positions up in the grid that it is made from (`Segmentation.grid_of_ofGrid`).
-/

namespace DetectorReadout

namespace Segmentation

/-- The segmentations that can be made: equal cells on a rectangle around the origin, or the cells of a grid of binnings that can
be made. -/
inductive Constructed {α : Type} [Scalar α] : Segmentation α → Prop where
  /-- The cells are equal. -/
  | ofHalfLengths {binsX binsY : Nat} {halfX halfY : α} {s : Segmentation α}
    (h : Segmentation.ofHalfLengths binsX binsY halfX halfY = .ok s) : Constructed s
  /-- The grid is given. -/
  | ofGrid {g : ChannelGrid α} {s : Segmentation α} (hg : ∀ b ∈ g.binnings, b.Constructed)
    (h : Segmentation.ofGrid g = .ok s) : Constructed s

/-- A segmentation has the channels of the grid from which it is made. -/
theorem grid_of_ofGrid {α : Type} {g : ChannelGrid α} {s : Segmentation α} (h : ofGrid g = .ok s) : s.grid = g := by
  obtain ⟨binnings, hlength⟩ := g
  rcases binnings with _ | ⟨x, _ | ⟨y, rest⟩⟩
  · simp [ofGrid] at h
  · simp [ofGrid] at h
  · simp only [ofGrid] at h
    split at h
    · cases h
      rcases rest with _ | ⟨third, _ | ⟨fourth, rest⟩⟩
      · rfl
      · rfl
      · simp only [List.length_cons] at hlength
        omega
    · cases h

/-- Equal cells are those of a grid of two binnings into equal bins. -/
theorem exists_grid_of_ofHalfLengths {α : Type} [Scalar α] {binsX binsY : Nat} {halfX halfY : α} {s : Segmentation α}
    (h : ofHalfLengths binsX binsY halfX halfY = .ok s) :
    ∃ g : ChannelGrid α, (∀ b ∈ g.binnings, b.Constructed) ∧ ofGrid g = .ok s := by
  unfold ofHalfLengths at h
  split at h
  · nomatch h
  cases hx : Binning.ofRange .x binsX (-halfX) halfX with
  | error e =>
    rw [hx] at h
    nomatch h
  | ok x =>
    cases hy : Binning.ofRange .y binsY (-halfY) halfY with
    | error e =>
      rw [hx, hy] at h
      nomatch h
    | ok y =>
      rw [hx, hy] at h
      refine ⟨⟨[x, y], Nat.le_succ 2⟩, fun b hb => ?_, h⟩
      rcases List.mem_pair.1 hb with rfl | rfl
      · exact .ofRange hx b.overflow
      · exact .ofRange hy b.overflow

/-- The binnings of a segmentation that can be made can be made. -/
theorem Constructed.binnings {α : Type} [Scalar α] {s : Segmentation α} (hs : s.Constructed) :
    ∀ b ∈ s.grid.binnings, b.Constructed := by
  have hgrid : ∃ g : ChannelGrid α, (∀ b ∈ g.binnings, b.Constructed) ∧ Segmentation.ofGrid g = .ok s := by
    cases hs with
    | ofHalfLengths h => exact exists_grid_of_ofHalfLengths h
    | ofGrid hg h => exact ⟨_, hg, h⟩
  obtain ⟨g, hg, h⟩ := hgrid
  rwa [grid_of_ofGrid h]

theorem Constructed.regular {s : Segmentation ℝ} (hs : s.Constructed) : s.x.Regular ∧ s.y.Regular :=
  ⟨(hs.binnings s.x List.mem_cons_self).regular, (hs.binnings s.y (List.mem_cons_of_mem _ List.mem_cons_self)).regular⟩

/-- The lookup of a segmentation is that of its grid. -/
theorem cell_eq {α : Type} [Scalar α] (s : Segmentation α) (p : Vec2 α) : s.cell p = ⟨s.grid.bin p 0, s.grid.bin p 1, 0⟩ := by
  have hx : s.x.axis.of p = p.x := by rw [s.axis_x, Axis.of]
  have hy : s.y.axis.of p = p.y := by rw [s.axis_y, Axis.of]
  change _ = (⟨s.x.bin (s.x.axis.of p), s.y.bin (s.y.axis.of p), 0⟩ : Cell α)
  rw [hx, hy, cell]

/-- The rectangle of a cell, without its upper edges, holds a position. -/
def Covers (s : Segmentation ℝ) (c : Cell ℝ) (p : Vec2 ℝ) : Prop := s.x.Holds c.channel0 p.x ∧ s.y.Holds c.channel1 p.y

/-- Under exact arithmetic, take any segmentation that can be made, also with bins of different widths, on circles or with a third
binning. It has the cells of its grid and looks positions up there. The middle of each cell is in this cell, and each position of
the rectangle of the module, the upper edges left out, is held by the rectangle of its own cell and by that of no other. -/
theorem cells_tile_module (s : Segmentation ℝ) (hs : s.Constructed) :
    (∀ g, ofGrid g = .ok s → s.channels = (g.bins 0, g.bins 1) ∧ ∀ p, s.cell p = ⟨g.bin p 0, g.bin p 1, 0⟩) ∧
      (∀ c : Cell ℝ, c.channel0 < s.channels.1 → c.channel1 < s.channels.2 → (s.cell (s.cellCenter c)).sameChannel c) ∧
      ∀ p : Vec2 ℝ, s.lowerCorner.x ≤ p.x → p.x < s.upperCorner.x → s.lowerCorner.y ≤ p.y → p.y < s.upperCorner.y →
        ∀ c : Cell ℝ, s.Covers c p ↔ (s.cell p).sameChannel c := by
  obtain ⟨hx, hy⟩ := hs.regular
  refine ⟨fun g hg => ?_, fun c h0 h1 => ?_, fun p hx0 hx1 hy0 hy1 c => ?_⟩
  · rw [← grid_of_ofGrid hg]
    exact ⟨rfl, s.cell_eq⟩
  · rw [Cell.sameChannel_iff]
    exact ⟨Binning.bin_center hx h0, Binning.bin_center hy h1⟩
  · rw [Cell.sameChannel_iff, Covers, Binning.holds_iff_of_mem_range hx hx0 hx1, Binning.holds_iff_of_mem_range hy hy0 hy1]
    exact and_congr eq_comm eq_comm

/-- Equal bins on a circle along the first coordinate, given edges along the second, and a third binning: the middle of the cell
at the upper left is in it, and the position at which four cells meet belongs to the one at the upper right only. -/
theorem cells_tile_module_four_corners :
    let s : Segmentation ℝ := ⟨Binning.halves true, quarteredSquare.segmentation.y, some (Binning.halves false), rfl, rfl⟩
    s.Constructed ∧ (s.cell (s.cellCenter ⟨0, 1, 3⟩)).sameChannel ⟨0, 1, 3⟩ ∧ (s.cell ⟨0, 0⟩).sameChannel ⟨1, 1, 0⟩ ∧
      ¬s.Covers ⟨0, 1, 0⟩ ⟨0, 0⟩ := by
  intro s
  have hs : s.Constructed := by
    refine .ofGrid (g := s.grid) (fun b hb => ?_) rfl
    rcases List.mem_cons.1 hb with rfl | hb
    · exact Binning.constructed_halves true .wrap
    rcases List.mem_pair.1 hb with rfl | rfl
    · exact quarteredSquare.constructed_y
    · exact Binning.constructed_halves false .wrap
  obtain ⟨-, hmiddle, htile⟩ := cells_tile_module s hs
  have hlow : (-1 : ℝ) ≤ 0 := by norm_num
  have hcovers := htile ⟨0, 0⟩ hlow one_pos hlow one_pos
  have hcorner : s.Covers ⟨1, 1, 0⟩ ⟨0, 0⟩ := ⟨⟨0, 1, rfl, rfl, le_rfl, one_pos⟩, 0, 1, rfl, rfl, le_rfl, one_pos⟩
  have hcell := (hcovers ⟨1, 1, 0⟩).1 hcorner
  refine ⟨hs, hmiddle ⟨0, 1, 3⟩ Nat.two_pos Nat.one_lt_two, hcell, fun hleft => ?_⟩
  have hsame := (hcovers ⟨0, 1, 0⟩).1 hleft
  rw [Cell.sameChannel_iff] at hcell hsame
  exact absurd (hcell.1.symm.trans hsame.1) one_ne_zero

end Segmentation

end DetectorReadout
