import DetectorReadout.Barcode
import DetectorReadout.Detector.Description
import DetectorReadout.GeometryId
import DetectorReadout.Options
import DetectorReadout.Particle
import DetectorReadout.SortedMultimap.Basic

/-!
# JSON forms of values

How the values of the library are written as JSON, and how they are read back. A packed word is a whole number, a vector a
list, a choice the name of what is chosen, and everything else an object with named fields.
-/

namespace DetectorReadout

/-! ## Addresses and barcodes -/

/-- The address as its packed word. -/
def GeometryId.toJson (x : GeometryId) : Json := .ofWord x.value

/-- The address of a packed word. -/
def GeometryId.ofJson? (j : Json) : Option GeometryId := j.word?.map GeometryId.mk

/-- The level by its name. -/
def GeometryField.toJson (f : GeometryField) : Json := .ofString f.name

/-- The level of a name. -/
def GeometryField.ofJson? : Json → Option GeometryField := Json.choice? (all.map fun f => (f.name, f))

/-- The layout as its masks. -/
def BarcodeLayout.toJson (l : BarcodeLayout) : Json :=
  .record [("vertex_mask", .ofWord l.vertexMask), ("primary_mask", .ofWord l.primaryMask),
    ("generation_mask", .ofWord l.generationMask), ("secondary_mask", .ofWord l.secondaryMask),
    ("process_mask", .ofWord l.processMask)]

/-- The layout of given masks. -/
def BarcodeLayout.ofJson? (j : Json) : Option BarcodeLayout := do
  let r ← j.record? ["vertex_mask", "primary_mask", "generation_mask", "secondary_mask", "process_mask"]
  return {
    vertexMask := ← r.required? "vertex_mask" Json.word?
    primaryMask := ← r.required? "primary_mask" Json.word?
    generationMask := ← r.required? "generation_mask" Json.word?
    secondaryMask := ← r.required? "secondary_mask" Json.word?
    processMask := ← r.required? "process_mask" Json.word? }

/-! ## Binnings -/

/-- The coordinate by its name. -/
def Axis.toJson (a : Axis) : Json := .ofString a.name

/-- The coordinate of a name. -/
def Axis.ofJson? : Json → Option Axis := Json.choice? ([.x, .y].map fun a => (name a, a))

/-- The choice by its name. -/
def Overflow.toJson (o : Overflow) : Json := .ofString o.name

/-- The choice of a name. -/
def Overflow.ofJson? : Json → Option Overflow := Json.choice? ([.clamp, .wrap].map fun o => (name o, o))

/-! ## Particles -/

/-- The vector as a list. -/
def Vec3.toJson (u : Vec3 Float) : Json := .array [.ofFloat u.x, .ofFloat u.y, .ofFloat u.z]

/-- The particle as an object. -/
def Particle.toJson (a : Particle) : Json :=
  .record [("position", a.position.toJson), ("time", .ofFloat a.time), ("momentum", a.momentum.toJson),
    ("mass", .ofFloat a.mass), ("charge", .ofFloat a.charge), ("pdg", .ofInt a.pdg.toInt), ("barcode", .ofWord a.barcode)]

/-- The particle of an object, or of a list in the same order. -/
def Particle.ofJson? (j : Json) : Option Particle := do
  let r ← j.record? ["position", "time", "momentum", "mass", "charge", "pdg", "barcode"]
  return {
    position := ← r.required? "position" Vec3.ofJson?
    time := ← r.required? "time" Json.float?
    momentum := ← r.required? "momentum" Vec3.ofJson?
    mass := ← r.required? "mass" Json.float?
    charge := ← r.required? "charge" Json.float?
    pdg := Int32.ofInt (← r.required? "pdg" Json.int?)
    barcode := ← r.required? "barcode" Json.word? }

/-- The vertex as an object. -/
def Vertex.toJson (v : Vertex) : Json :=
  .record [("position", v.position.toJson), ("time", .ofFloat v.time), ("incoming", .array (v.incoming.map Particle.toJson)),
    ("outgoing", .array (v.outgoing.map Particle.toJson)), ("process", .ofInt v.process.toNat)]

/-- The vertex of an object, or of a list in the same order. -/
def Vertex.ofJson? (j : Json) : Option Vertex := do
  let r ← j.record? ["position", "time", "incoming", "outgoing", "process"]
  return {
    position := ← r.required? "position" Vec3.ofJson?
    time := ← r.required? "time" Json.float?
    incoming := ← r.required? "incoming" (Json.list? Particle.ofJson?)
    outgoing := ← r.required? "outgoing" (Json.list? Particle.ofJson?)
    process := ← r.required? "process" Json.halfWord? }

/-! ## Options -/

/-- The options as an object. -/
def DigitizationOptions.toJson (o : DigitizationOptions) : Json :=
  .record [("clusters", .ofString o.clusters), ("space_points", .ofString o.spacePoints)]

/-- The options of an object, or of a list in the same order. All of them have defaults. -/
def DigitizationOptions.ofJson? (j : Json) : Option DigitizationOptions := do
  let r ← j.record? ["clusters", "space_points"]
  let default : DigitizationOptions := {}
  return {
    clusters := ← r.withDefault? "clusters" Json.string? default.clusters
    spacePoints := ← r.withDefault? "space_points" Json.string? default.spacePoints }

/-- The options as an object. -/
def SmearingOptions.toJson (o : SmearingOptions) : Json :=
  .record [("source_links", .ofString o.sourceLinks), ("sigma_loc0", .ofFloat o.sigmaLoc0),
    ("sigma_loc1", .ofFloat o.sigmaLoc1)]

/-- The options of an object, or of a list in the same order. All of them have defaults. -/
def SmearingOptions.ofJson? (j : Json) : Option SmearingOptions := do
  let r ← j.record? ["source_links", "sigma_loc0", "sigma_loc1"]
  let default : SmearingOptions := {}
  return {
    sourceLinks := ← r.withDefault? "source_links" Json.string? default.sourceLinks
    sigmaLoc0 := ← r.withDefault? "sigma_loc0" Json.float? default.sigmaLoc0
    sigmaLoc1 := ← r.withDefault? "sigma_loc1" Json.float? default.sigmaLoc1 }

/-! ## Multimaps -/

/-- The map as the list of its entries. -/
def SortedMultimap.toJson {κ ν : Type} (key : κ → Json) (value : ν → Json) (m : SortedMultimap κ ν) : Json :=
  .array (m.toList.map fun (k, v) => .array [key k, value v])

/-- The map of a list of entries, which are taken as they are and may be out of order. -/
def SortedMultimap.ofJson? {κ ν : Type} (key? : Json → Option κ) (value? : Json → Option ν) (j : Json) :
    Option (SortedMultimap κ ν) := do
  let entry? : Json → Option (κ × ν)
    | .array [k, v] => do return (← key? k, ← value? v)
    | _ => none
  return .ofEntries (← j.list? entry?).toArray

/-! ## Texts -/

/-- The value of a type that a JSON text stands for. -/
def Json.decode? {β : Type} (ofJson? : Json → Option β) (text : String) : Option β := (Json.parse text).bind ofJson?

end DetectorReadout
