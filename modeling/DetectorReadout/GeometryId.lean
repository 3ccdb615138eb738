import DetectorReadout.Bits

/-!
# Addresses of surfaces

A `GeometryId` packs the place of a surface in the detector hierarchy into one 64-bit word: volume, boundary, layer,
approach surface and sensitive surface, from the most to the least significant bits. Comparing two words as integers
therefore compares the places level by level.
-/

namespace DetectorReadout

/-- A level of the detector hierarchy, with a field of its own in every address. -/
inductive GeometryField where
  /-- Tracking volume. -/
  | volume
  /-- Boundary surface of a volume. -/
  | boundary
  /-- Layer within a volume. -/
  | layer
  /-- Approach surface of a layer. -/
  | approach
  /-- Sensitive surface within a layer. -/
  | sensitive
deriving DecidableEq, Repr

namespace GeometryField

/-- All levels, from the most to the least significant. -/
def all : List GeometryField := [volume, boundary, layer, approach, sensitive]

/-- The bits of an address that belong to the level. -/
def mask : GeometryField → UInt64
  | volume => 0xff00000000000000
  | boundary => 0x00ff000000000000
  | layer => 0x0000fff000000000
  | approach => 0x0000000ff0000000
  | sensitive => 0x000000000fffffff

/-- The largest number the level can hold. -/
def maxValue (f : GeometryField) : UInt64 := extract f.mask f.mask

/-- The name of the level. -/
def name : GeometryField → String
  | volume => "Volume"
  | boundary => "Boundary"
  | layer => "Layer"
  | approach => "Approach"
  | sensitive => "Sensitive"

/-- The mask of the level together with all levels above it. -/
def prefixMask (f : GeometryField) : UInt64 :=
  (all.takeWhile (· ≠ f)).foldl (fun m g => m ||| g.mask) f.mask

end GeometryField

/-- The address of a surface in the detector hierarchy. -/
structure GeometryId where
  /-- The packed word. -/
  value : UInt64
deriving DecidableEq, Repr, Hashable

namespace GeometryId

instance : Inhabited GeometryId := ⟨⟨0⟩⟩

instance : LT GeometryId := ⟨fun x y => x.value < y.value⟩

instance : LE GeometryId := ⟨fun x y => x.value ≤ y.value⟩

instance : DecidableLT GeometryId := fun x y => inferInstanceAs (Decidable (x.value < y.value))

instance : DecidableLE GeometryId := fun x y => inferInstanceAs (Decidable (x.value ≤ y.value))

instance : Ord GeometryId := ⟨fun x y => compare x.value y.value⟩

instance : Std.TransOrd GeometryId where
  eq_swap := Std.OrientedOrd.eq_swap (α := UInt64)
  isLE_trans := Std.TransOrd.isLE_trans (α := UInt64)

instance : Std.LawfulEqOrd GeometryId where
  eq_of_compare {x y} h := by
    cases x; cases y
    exact congrArg GeometryId.mk (Std.LawfulEqOrd.eq_of_compare (α := UInt64) h)

instance : Std.IsLinearOrder GeometryId where
  le_refl x := Std.le_refl x.value
  le_trans _ _ _ := Std.le_trans (α := UInt64)
  le_antisymm x y h h' := by
    cases x; cases y
    exact congrArg GeometryId.mk (Std.le_antisymm h h')
  le_total x y := Std.le_total (a := x.value) (b := y.value)

instance : Std.LawfulOrderLT GeometryId where
  lt_iff x y := Std.lt_iff_le_and_not_ge (a := x.value) (b := y.value)

/-- The number in one field of the address. -/
def get (x : GeometryId) (f : GeometryField) : UInt64 := extract x.value f.mask

/-- The address with one field replaced; a number too wide for the field loses its upper bits. -/
def set (x : GeometryId) (f : GeometryField) (v : UInt64) : GeometryId :=
  ⟨(x.value &&& ~~~f.mask) ||| deposit v f.mask⟩

/-- The address with the given fields. Numbers too wide for their field lose their upper bits. -/
def pack (volume boundary layer approach sensitive : UInt64) : GeometryId :=
  ⟨deposit volume GeometryField.volume.mask ||| deposit boundary GeometryField.boundary.mask |||
    deposit layer GeometryField.layer.mask ||| deposit approach GeometryField.approach.mask |||
    deposit sensitive GeometryField.sensitive.mask⟩

/-- The address of a sensitive surface, which has no boundary and no approach number. -/
def ofModule (volume layer sensitive : UInt64) : GeometryId :=
  pack volume 0 layer 0 sensitive

/-- The last address that agrees with `x` on all bits from the lowest bit of the mask upwards. The empty mask leaves no
freedom at all. -/
def lastBelow (x : GeometryId) (mask : UInt64) : GeometryId :=
  if mask = 0 then x else ⟨x.value ||| ((1 <<< lowestBit mask) - 1)⟩

/-- The tag that introduces a level in the text of an address. -/
def tag : GeometryField → String
  | .volume => "vol"
  | .boundary => "bnd"
  | .layer => "lay"
  | .approach => "apr"
  | .sensitive => "sen"

/-- The text of an address: the volume, then every other field that is not zero, as in `vol=1|lay=2|sen=3`. -/
def text (x : GeometryId) : String :=
  "|".intercalate ((GeometryField.all.filter fun f => f = .volume ∨ x.get f ≠ 0).map fun f =>
    tag f ++ "=" ++ (x.get f).toNat.repr)

instance : ToString GeometryId := ⟨text⟩

end GeometryId

end DetectorReadout
