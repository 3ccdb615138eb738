import DetectorReadout.Readout.Segmentation

/-!
# Numbers of channels

A binning sends every scalar to one of its bins, numbers and others alike, because the lookup ends in a cut-off at the last bin
(`Binning.bin_lt`). A grid numbers the triples of its bins with the first bin running fastest, so a triple is read back from
its number (`ChannelGrid.deserialize_serialize`), and the numbers of the triples with the same third bin fill one stretch of
the length of a layer (`ChannelGrid.serialize_lt`).
-/

namespace DetectorReadout

namespace Binning

variable {α : Type}

/-- There is a bin. -/
theorem bins_pos (b : Binning α) : 0 < b.bins := by
  have := b.two_le_size
  unfold bins
  omega

/-- Every value has a bin. -/
theorem bin_lt [Scalar α] (b : Binning α) (v : α) : b.bin v < b.bins := by
  have hpos := b.bins_pos
  unfold bin
  split
  · unfold binByDivision
    omega
  · unfold binBySearch
    omega

end Binning

namespace ChannelGrid

variable {α : Type} (g : ChannelGrid α)

/-- Every dimension has a bin, also one that the grid does not have. -/
theorem bins_pos (i : Nat) : 0 < g.bins i := by
  unfold bins
  cases g.binning? i with
  | none => exact Nat.one_pos
  | some b => exact b.bins_pos

/-- The grid has at least the channels of one layer. -/
theorem layer_le_serialSize : g.bins 0 * g.bins 1 ≤ g.serialSize :=
  Nat.le_mul_of_pos_right _ (g.bins_pos 2)

variable {t : BinTriple} (hfirst : t.first < g.bins 0) (hsecond : t.second < g.bins 1)

include hfirst hsecond

/-- The bins along the first two dimensions make a number below the number of channels of a layer. -/
theorem place_in_layer_lt : t.first + g.bins 0 * t.second < g.bins 0 * g.bins 1 := by
  calc t.first + g.bins 0 * t.second
      < g.bins 0 + g.bins 0 * t.second := Nat.add_lt_add_right hfirst _
    _ = g.bins 0 * (t.second + 1) := by rw [Nat.mul_succ, Nat.add_comm]
    _ ≤ g.bins 0 * g.bins 1 := Nat.mul_le_mul_left _ hsecond

omit hfirst hsecond in
/-- The number of a triple is its place in its layer behind all the layers below. -/
theorem serialize_eq :
    g.serialize t = t.first + g.bins 0 * t.second + g.bins 0 * g.bins 1 * t.third := by
  rw [serialize, Nat.mul_comm t.second, Nat.mul_assoc t.third, Nat.mul_comm t.third]

/-- The number of a triple lies in its layer. -/
theorem serialize_lt : g.serialize t < g.bins 0 * g.bins 1 * (t.third + 1) := by
  rw [g.serialize_eq, Nat.mul_succ, Nat.add_comm (_ * t.third)]
  exact Nat.add_lt_add_right (g.place_in_layer_lt hfirst hsecond) _

/-- A triple is read back from its number. -/
theorem deserialize_serialize : g.deserialize (g.serialize t) = t := by
  have hn0 := g.bins_pos 0
  have hn1 := g.bins_pos 1
  have hplace := g.place_in_layer_lt hfirst hsecond
  -- Taking out the first bin leaves the number of the other two.
  have hrest : g.serialize t = t.first + g.bins 0 * (t.second + g.bins 1 * t.third) := by
    rw [g.serialize_eq, Nat.mul_add, ← Nat.mul_assoc, Nat.add_assoc]
  have h1 : g.serialize t % g.bins 0 = t.first := by
    rw [hrest, Nat.add_mul_mod_self_left, Nat.mod_eq_of_lt hfirst]
  have h2 : g.serialize t / g.bins 0 % g.bins 1 = t.second := by
    rw [hrest, Nat.add_mul_div_left _ _ hn0, Nat.div_eq_of_lt hfirst, Nat.zero_add, Nat.add_mul_mod_self_left,
      Nat.mod_eq_of_lt hsecond]
  have h3 : g.serialize t / (g.bins 0 * g.bins 1) = t.third := by
    rw [g.serialize_eq, Nat.add_mul_div_left _ _ (Nat.mul_pos hn0 hn1), Nat.div_eq_of_lt hplace, Nat.zero_add]
  rw [deserialize, h1, h2, h3]

end ChannelGrid

namespace Segmentation

variable {α : Type} [Scalar α] (s : Segmentation α) (p : Vec2 α)

/-- The number of the channel of a position lies in the first layer. -/
theorem channel_lt : s.channel p < s.grid.bins 0 * s.grid.bins 1 := by
  have h := s.grid.serialize_lt (t := ⟨s.x.bin p.x, s.y.bin p.y, 0⟩) (s.x.bin_lt p.x) (s.y.bin_lt p.y)
  rwa [Nat.zero_add, Nat.mul_one] at h

/-- The number of the channel of a position stands for the bins of the position. -/
theorem deserialize_channel : s.grid.deserialize (s.channel p) = ⟨s.x.bin p.x, s.y.bin p.y, 0⟩ :=
  s.grid.deserialize_serialize (t := ⟨s.x.bin p.x, s.y.bin p.y, 0⟩) (s.x.bin_lt p.x) (s.y.bin_lt p.y)

end Segmentation

end DetectorReadout
