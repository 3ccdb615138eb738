import DetectorReadout.Readout.Binning

/-!
# Channel grids

Up to three binnings together number the channels of a module. A channel is a triple of bins, and its number counts the
triples with the first bin running fastest.
-/

namespace DetectorReadout

/-- A triple of bins. -/
structure BinTriple where
  /-- Bin of the first dimension. -/
  first : Nat
  /-- Bin of the second dimension. -/
  second : Nat
  /-- Bin of the third dimension. -/
  third : Nat
deriving DecidableEq, Repr

/-- Up to three binnings. -/
structure ChannelGrid (α : Type) where
  /-- The binnings, one a dimension. -/
  binnings : List (Binning α)
  /-- There are at most three dimensions. -/
  length_le : binnings.length ≤ 3

namespace ChannelGrid

variable {α : Type}

/-- The grid without dimensions, which has a single channel. -/
def empty : ChannelGrid α := ⟨[], Nat.zero_le 3⟩

/-- The grid with one dimension more. -/
def add (g : ChannelGrid α) (b : Binning α) : Except (BinningError α) (ChannelGrid α) :=
  if h : g.binnings.length = 3 then .error .tooManyDimensions
  else .ok ⟨g.binnings ++ [b], by
    have := g.length_le
    simp only [List.length_append, List.length_singleton]
    omega⟩

/-- The number of dimensions. -/
def dimensions (g : ChannelGrid α) : Nat := g.binnings.length

/-- The binning of one dimension. -/
def binning? (g : ChannelGrid α) (i : Nat) : Option (Binning α) := g.binnings[i]?

/-- The number of bins along one dimension, one if the grid does not have it. -/
def bins (g : ChannelGrid α) (i : Nat) : Nat := (g.binning? i).elim 1 Binning.bins

/-- The number of channels. -/
def serialSize (g : ChannelGrid α) : Nat := g.bins 0 * g.bins 1 * g.bins 2

/-- The number of a channel. -/
def serialize (g : ChannelGrid α) (t : BinTriple) : Nat :=
  t.first + t.second * g.bins 0 + t.third * g.bins 0 * g.bins 1

/-- The channel with a number. -/
def deserialize (g : ChannelGrid α) (s : Nat) : BinTriple where
  first := s % g.bins 0
  second := s / g.bins 0 % g.bins 1
  third := s / (g.bins 0 * g.bins 1)

variable [Scalar α]

/-- The bin of a local position along one dimension, zero if the grid does not have it. -/
def bin (g : ChannelGrid α) (p : Vec2 α) (i : Nat) : Nat :=
  (g.binning? i).elim 0 fun b => b.bin (b.axis.of p)

/-- Whether a local position lies in the range of every binning. -/
def inside (g : ChannelGrid α) (p : Vec2 α) : Bool := g.binnings.all fun b => b.inside (b.axis.of p)

end ChannelGrid

end DetectorReadout
