import DetectorReadout.Detector.Basic
import DetectorReadout.Json.Reader
import DetectorReadout.Json.Record

/-!
# Descriptions of detectors

A detector can be described by a list of planar modules. A description is read as a whole first; its modules are then
built and added one after another, and the first that cannot be built or repeats an address is the reason for a refusal.
Everything about a module has a default.
-/

namespace DetectorReadout

/-- The placement of a module, as it is described: a shift, and perhaps the local axes. -/
structure PlacementDescription (α : Type) where
  /-- The centre of the module. -/
  shift : Vec3 α
  /-- The local axes as columns; the global ones if left out. -/
  rotation : Option (Mat3 α)

/-- The placement of a module in one epoch, as it is described. -/
structure AlignmentDescription (α : Type) where
  /-- The epoch. -/
  epoch : UInt64
  /-- The placement. -/
  placement : PlacementDescription α

/-- The cells of a module, as they are described. -/
structure SegmentationDescription (α : Type) [Scalar α] where
  /-- The number of cells along local x. -/
  binsX : Nat := 1
  /-- The number of cells along local y. -/
  binsY : Nat := 1
  /-- Half the extent along local x. -/
  halfX : α := 1
  /-- Half the extent along local y. -/
  halfY : α := 1

/-- A planar module, as it is described. -/
structure ModuleDescription (α : Type) [Scalar α] where
  /-- Tracking volume. -/
  volume : UInt64 := 0
  /-- Layer within the volume. -/
  layer : UInt64 := 0
  /-- Number within the layer. -/
  sensitive : UInt64 := 0
  /-- The placement. -/
  placement : PlacementDescription α := ⟨0, none⟩
  /-- The thickness of the module. -/
  thickness : α := 0.3
  /-- The angle of the drift. -/
  lorentzAngle : α := 0
  /-- The sign of the face towards which charge drifts. -/
  readoutDirection : Int := 1
  /-- The cells. -/
  segmentation : SegmentationDescription α := {}
  /-- The placements of single epochs. -/
  alignments : List (AlignmentDescription α) := []
  /-- Whether the module is read out. -/
  digitize : Bool := true

variable {α : Type} [Scalar α]

/-- The placement that is described. -/
def PlacementDescription.build (d : PlacementDescription α) : Placement α :=
  match d.rotation with
  | some m => .ofRotation m d.shift
  | none => .ofShift d.shift

namespace ModuleDescription

/-- The address of the module. -/
def id (d : ModuleDescription α) : GeometryId := .ofModule d.volume d.layer d.sensitive

/-- The element of the module, without readout. -/
def element (d : ModuleDescription α) : PlanarElement α :=
  d.alignments.foldl (fun e a => e.withAlignment a.epoch a.placement.build)
    { identifier := d.id.value, nominal := d.placement.build, thickness := d.thickness }

/-- The readout of the module. -/
def readout (d : ModuleDescription α) : Except (GeometryError α) (ReadoutModule α) := do
  let s := d.segmentation
  let cells ← (Segmentation.ofHalfLengths s.binsX s.binsY s.halfX s.halfY).mapError .binning
  (ReadoutModule.make cells (0.5 * d.thickness) d.readoutDirection d.lorentzAngle).mapError .module

/-- The surface of the module. -/
def build (d : ModuleDescription α) : Except (GeometryError α) (Surface α) := do
  if d.digitize then
    return ⟨d.id, .planar (d.element.withReadout (← d.readout))⟩
  else
    return ⟨d.id, .planar d.element⟩

end ModuleDescription

/-- The detector of the described modules. -/
def Detector.ofModules (modules : List (ModuleDescription α)) : Except (GeometryError α) (Detector α) :=
  modules.foldlM (fun d m => do d.add (← m.build)) .empty

/-! ## Reading a description -/

/-- A vector of space, as a list of its components. -/
def Vec3.ofJson? : Json → Option (Vec3 Float)
  | .array [x, y, z] => do return ⟨← x.float?, ← y.float?, ← z.float?⟩
  | _ => none

/-- A matrix, as a list of its columns. -/
def Mat3.ofJson? : Json → Option (Mat3 Float)
  | .array [a, b, c] => do return ⟨← Vec3.ofJson? a, ← Vec3.ofJson? b, ← Vec3.ofJson? c⟩
  | _ => none

/-- The placement of a module in one epoch. -/
def AlignmentDescription.ofJson? (j : Json) : Option (AlignmentDescription Float) := do
  let r ← j.record? ["epoch", "translation", "rotation"]
  let epoch ← r.required? "epoch" Json.word?
  let shift ← r.required? "translation" Vec3.ofJson?
  let rotation ← r.optional? "rotation" Mat3.ofJson?
  return ⟨epoch, shift, rotation⟩

/-- The cells of a module. -/
def SegmentationDescription.ofJson? (j : Json) : Option (SegmentationDescription Float) := do
  let r ← j.record? ["bins_x", "bins_y", "half_x", "half_y"]
  return {
    binsX := ← r.withDefault? "bins_x" Json.count? 1
    binsY := ← r.withDefault? "bins_y" Json.count? 1
    halfX := ← r.withDefault? "half_x" Json.float? 1
    halfY := ← r.withDefault? "half_y" Json.float? 1 }

/-- A module. -/
def ModuleDescription.ofJson? (j : Json) : Option (ModuleDescription Float) := do
  let r ← j.record? ["volume", "layer", "sensitive", "translation", "rotation", "thickness", "lorentz_angle",
    "readout_direction", "segmentation", "alignments", "digitize"]
  return {
    volume := ← r.withDefault? "volume" Json.word? 0
    layer := ← r.withDefault? "layer" Json.word? 0
    sensitive := ← r.withDefault? "sensitive" Json.word? 0
    placement := {
      shift := ← r.withDefault? "translation" Vec3.ofJson? 0
      rotation := ← r.withDefault? "rotation" (Json.nullable? Mat3.ofJson?) none }
    thickness := ← r.withDefault? "thickness" Json.float? 0.3
    lorentzAngle := ← r.withDefault? "lorentz_angle" Json.float? 0
    readoutDirection := ← r.withDefault? "readout_direction" Json.int? 1
    segmentation := ← r.withDefault? "segmentation" SegmentationDescription.ofJson? {}
    alignments := ← r.withDefault? "alignments" (Json.list? AlignmentDescription.ofJson?) []
    digitize := ← r.withDefault? "digitize" Json.bool? true }

/-- The modules of a description. -/
def Detector.modulesOfJson? (j : Json) : Option (List (ModuleDescription Float)) := do
  (← j.record? ["modules"]).required? "modules" (Json.list? ModuleDescription.ofJson?)

/-- Why a detector could not be loaded. -/
inductive LoadError (α : Type) where
  /-- The file that holds the description cannot be read. -/
  | unreadable
  /-- The text is no description. -/
  | malformed
  /-- The detector that is described cannot be built. -/
  | invalid (cause : GeometryError α)

/-- The detector that a text describes. -/
def Detector.ofText (text : String) : Except (LoadError Float) (Detector Float) :=
  match (Json.parse text).bind modulesOfJson? with
  | none => .error .malformed
  | some modules => (ofModules modules).mapError .invalid

/-- The detector described by the contents of a file, if the file has any. -/
def Detector.ofFile (contents : Option String) : Except (LoadError Float) (Detector Float) :=
  match contents with
  | none => .error .unreadable
  | some text => ofText text

end DetectorReadout
