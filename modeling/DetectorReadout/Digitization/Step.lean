import DetectorReadout.Readout.Module
import DetectorReadout.Surface

/-!
# Steps of a track through a module

A straight track through a module is cut into steps, each of which lies in one readout cell. `PlanarStepper` takes the
part of the track between the two faces of the sensor, clips it to the sensitive rectangle, cuts it at every cell edge,
looks up the cell in the middle of each piece, and joins neighbouring pieces in the same cell.
-/

namespace DetectorReadout

/-- A piece of a straight track inside one readout cell, in the frame of the module. -/
structure Step (α : Type) where
  /-- The cell, with the length of the piece. -/
  cell : Cell α
  /-- The length of the piece. -/
  length : α
  /-- Where the piece begins. -/
  entry : Vec3 α
  /-- Where the piece ends. -/
  exit : Vec3 α
  /-- The middle of the cell. -/
  center : Vec2 α
deriving DecidableEq, BEq, Repr

/-- A way to cut a track into steps: from the readout of a module, the point where the track crosses its middle plane, and
the direction of the track, to the steps in the order of the direction. -/
abbrev Stepper (α : Type) [Scalar α] := GeometryContext → ReadoutModule α → Vec2 α → Vec3 α → List (Step α)

/-- The stepper for planar modules with rectangular cells. -/
structure PlanarStepper (α : Type) where
  /-- What is smaller than this is neglected: the slope of a track, its extent along an axis, and the distance of two cuts
  as a part of the track. -/
  tolerance : α
deriving DecidableEq, Repr

variable {α : Type} [Scalar α]

instance : Inhabited (PlanarStepper α) := ⟨⟨1e-9⟩⟩

namespace PlanarStepper

/-- Clips a part of the track, given by the parameters at its ends, by one side of the rectangle. The track leaves by that
side at the parameter `q / p`, and enters by it if `p` is negative. A track along the side is either kept or lost. -/
def clipSide (s : PlanarStepper α) (part : α × α) (p q : α) : Option (α × α) :=
  if Scalar.abs p < s.tolerance then
    if q < 0 then none else some part
  else if p < 0 then some (Scalar.max part.1 (q / p), part.2)
  else some (part.1, Scalar.min part.2 (q / p))

/-- The part of the track from `start` along `delta` above the rectangle between two corners, as parameters between zero
and one. There is none if it is shorter than the tolerance. -/
def clip (s : PlanarStepper α) (start delta : Vec3 α) (lower upper : Vec2 α) : Option (α × α) := do
  let part ← s.clipSide (0, 1) (-delta.x) (start.x - lower.x)
  let part ← s.clipSide part delta.x (upper.x - start.x)
  let part ← s.clipSide part (-delta.y) (start.y - lower.y)
  let part ← s.clipSide part delta.y (upper.y - start.y)
  if s.tolerance < part.2 - part.1 then some part else none

/-- The parameters, well between zero and one, at which the track crosses an edge of one axis. -/
def edgeCrossings (s : PlanarStepper α) (origin extent : α) (edges : List α) : List α :=
  if Scalar.abs extent < s.tolerance then []
  else (edges.map fun e => (e - origin) / extent).filter fun u => s.tolerance < u ∧ u < 1 - s.tolerance

/-- The values that are further than the tolerance from the last one kept, which was `last`. -/
def thinFrom (s : PlanarStepper α) (last : α) : List α → List α
  | [] => []
  | u :: rest => if u - last ≤ s.tolerance then thinFrom s last rest else u :: thinFrom s u rest

/-- The first value, and every further one that is further than the tolerance from the last one kept. -/
def thin (s : PlanarStepper α) : List α → List α
  | [] => []
  | u :: rest => u :: s.thinFrom u rest

/-- The parameters at which the track is cut: the crossings of cell edges in ascending order, then one. -/
def cuts (s : PlanarStepper α) (start delta : Vec3 α) (edgesX edgesY : List α) : List α :=
  s.thin (((s.edgeCrossings start.x delta.x edgesX ++ s.edgeCrossings start.y delta.y edgesY).mergeSort
    Scalar.totalLe) ++ [1])

/-- The piece of the track between two parameters. -/
def piece (segmentation : Segmentation α) (start delta : Vec3 α) (length : α) (before after : α) : Step α :=
  let cell := segmentation.cell (start + delta * (0.5 * (before + after))).truncate
  { cell := { cell with data := (after - before) * length }
    length := (after - before) * length
    entry := start + delta * before
    exit := start + delta * after
    center := segmentation.cellCenter cell }

/-- The pieces of the track between zero and the given parameters, one after another. -/
def pieces (segmentation : Segmentation α) (start delta : Vec3 α) (length : α) (cuts : List α) : List (Step α) :=
  ((0 :: cuts).zip cuts).map fun (before, after) => piece segmentation start delta length before after

/-- A step prolonged by the piece behind it. -/
def prolong (first second : Step α) : Step α :=
  { first with
    cell := { first.cell with data := first.length + second.length }
    length := first.length + second.length
    exit := second.exit }

/-- The steps from `first` on, with neighbours in the same cell joined. -/
def joinFrom (first : Step α) : List (Step α) → List (Step α)
  | [] => [first]
  | next :: rest =>
    if first.cell.sameChannel next.cell then joinFrom (prolong first next) rest else first :: joinFrom next rest

/-- The steps with neighbours in the same cell joined. -/
def join : List (Step α) → List (Step α)
  | [] => []
  | first :: rest => joinFrom first rest

/-- The track between the two faces of a sensor: the point where it enters, and the way to the point where it leaves. -/
def throughSensor (halfThickness : α) (position : Vec2 α) (direction : Vec3 α) : Vec3 α × Vec3 α :=
  let low := -halfThickness / direction.z
  let high := halfThickness / direction.z
  let entry := position.extend 0 + direction * Scalar.min low high
  let exit := position.extend 0 + direction * Scalar.max low high
  (entry, exit - entry)

/-- The steps of a track. A track along the module has none, and neither has one that misses the sensitive rectangle. -/
def steps (s : PlanarStepper α) (module : ReadoutModule α) (position : Vec2 α) (direction : Vec3 α) : List (Step α) :=
  let segmentation := module.segmentation
  if Scalar.abs direction.unit.z < s.tolerance then []
  else
    let (entry, way) := throughSensor module.halfThickness position direction.unit
    match s.clip entry way segmentation.lowerCorner segmentation.upperCorner with
    | none => []
    | some (u, v) =>
      let start := entry + way * u
      let delta := way * (v - u)
      let cuts := s.cuts start delta segmentation.x.edges.toList segmentation.y.edges.toList
      join (pieces segmentation start delta delta.length cuts)

/-- The stepper as a function. It looks at no conditions. -/
def toStepper (s : PlanarStepper α) : Stepper α := fun _ => s.steps

end PlanarStepper

end DetectorReadout
