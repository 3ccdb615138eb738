import DetectorReadout.Readout.ChannelGrid

/-!
# Segmentations

A segmentation cuts the sensitive rectangle of a module into cells: one binning along each local coordinate, and perhaps a
third one that only counts for the numbers of the channels and for the sensitive area.
-/

namespace DetectorReadout

/-- A readout cell, addressed by its bins along the two local coordinates, with a number that belongs to it: the length of
the path inside the cell, where a cell is part of a cluster. -/
structure Cell (α : Type) where
  /-- Bin along local x. -/
  channel0 : Nat
  /-- Bin along local y. -/
  channel1 : Nat
  /-- The number that belongs to the cell. -/
  data : α
deriving DecidableEq, BEq, Repr

/-- Whether two cells have the same address. -/
def Cell.sameChannel {α : Type} (c d : Cell α) : Bool := c.channel0 = d.channel0 ∧ c.channel1 = d.channel1

/-- A grid of cells on the sensitive rectangle of a module. -/
structure Segmentation (α : Type) where
  /-- The binning along local x. -/
  x : Binning α
  /-- The binning along local y. -/
  y : Binning α
  /-- A third dimension of the channel numbers. -/
  third : Option (Binning α)
  /-- The first binning is along local x. -/
  axis_x : x.axis = .x
  /-- The second binning is along local y. -/
  axis_y : y.axis = .y

namespace Segmentation

variable {α : Type}

/-- The channels of the segmentation. -/
def grid (s : Segmentation α) : ChannelGrid α :=
  ⟨s.x :: s.y :: s.third.toList, by cases s.third <;> simp⟩

/-- The segmentation whose channels are those of a grid. -/
def ofGrid (g : ChannelGrid α) : Except (BinningError α) (Segmentation α) :=
  match g.binnings with
  | x :: y :: rest =>
    if h : x.axis = .x ∧ y.axis = .y then .ok ⟨x, y, rest.head?, h.1, h.2⟩ else .error .axisOrder
  | _ => .error .tooFewDimensions

/-- The numbers of cells along local x and along local y. -/
def channels (s : Segmentation α) : Nat × Nat := (s.x.bins, s.y.bins)

/-- The corner of the sensitive rectangle with the smallest coordinates. -/
def lowerCorner (s : Segmentation α) : Vec2 α := ⟨s.x.lower, s.y.lower⟩

/-- The corner of the sensitive rectangle with the largest coordinates. -/
def upperCorner (s : Segmentation α) : Vec2 α := ⟨s.x.upper, s.y.upper⟩

variable [Scalar α]

/-- The segmentation into `binsX` times `binsY` equal cells of a rectangle around the origin. -/
def ofHalfLengths (binsX binsY : Nat) (halfX halfY : α) : Except (BinningError α) (Segmentation α) := do
  if ¬ (0 < halfX ∧ 0 < halfY) then
    throw (.halfLengths halfX halfY)
  let x ← Binning.ofRange .x binsX (-halfX) halfX
  let y ← Binning.ofRange .y binsY (-halfY) halfY
  ofGrid (← (← ChannelGrid.empty.add x).add y)

/-- Half the extents of the sensitive rectangle. -/
def halfLengths (s : Segmentation α) : Vec2 α :=
  ⟨0.5 * (s.x.upper - s.x.lower), 0.5 * (s.y.upper - s.y.lower)⟩

/-- Whether a local position lies on the sensitive area. -/
def contains (s : Segmentation α) (p : Vec2 α) : Bool := s.grid.inside p

/-- The cell of a local position, with a path of length zero. -/
def cell (s : Segmentation α) (p : Vec2 α) : Cell α := ⟨s.x.bin p.x, s.y.bin p.y, 0⟩

/-- The middle of a cell. -/
def cellCenter (s : Segmentation α) (c : Cell α) : Vec2 α := ⟨s.x.center c.channel0, s.y.center c.channel1⟩

/-- The number of the channel of a local position. -/
def channel (s : Segmentation α) (p : Vec2 α) : Nat := s.grid.serialize ⟨s.x.bin p.x, s.y.bin p.y, 0⟩

end Segmentation

end DetectorReadout
