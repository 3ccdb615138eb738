import DetectorReadout.Vector

/-!
# Placements

A placement says where a surface stands: it maps the local frame of the surface to the global one. The columns of its
matrix are the local axes seen from outside, and the third of them is the normal of the surface. The way back uses the
inverse matrix.
-/

namespace DetectorReadout

/-- An affine map of space: a matrix, then a shift. -/
structure Affine (α : Type) where
  /-- The matrix. -/
  linear : Mat3 α
  /-- The shift. -/
  shift : Vec3 α
deriving DecidableEq, BEq, Repr, Inhabited

variable {α : Type} [Scalar α]

namespace Affine

/-- The map that changes nothing. -/
def identity : Affine α := ⟨.identity, 0⟩

/-- The image of a point. -/
def point (f : Affine α) (p : Vec3 α) : Vec3 α := f.linear.apply p + f.shift

/-- The image of a difference of two points: the shift drops out. -/
def vector (f : Affine α) (v : Vec3 α) : Vec3 α := f.linear.apply v

/-- The inverse map. -/
def inverse (f : Affine α) : Affine α :=
  let m := f.linear.inverse
  ⟨m, -m.apply f.shift⟩

end Affine

/-- The placement of a surface. -/
structure Placement (α : Type) where
  /-- The map from the local frame to the global one. -/
  toGlobal : Affine α
deriving DecidableEq, BEq, Repr, Inhabited

namespace Placement

/-- The placement in which the two frames coincide. -/
def identity : Placement α := ⟨.identity⟩

/-- The placement by a shift alone. -/
def ofShift (t : Vec3 α) : Placement α := ⟨⟨.identity, t⟩⟩

/-- The placement with the given local axes, then a shift. -/
def ofRotation {α : Type} (m : Mat3 α) (t : Vec3 α) : Placement α := ⟨⟨m, t⟩⟩

/-- The map from the global frame to the local one. -/
def toLocal (p : Placement α) : Affine α := p.toGlobal.inverse

/-- The centre of the surface. -/
def center {α : Type} (p : Placement α) : Vec3 α := p.toGlobal.shift

/-- The local axes, as columns. -/
def rotation {α : Type} (p : Placement α) : Mat3 α := p.toGlobal.linear

/-- The normal of the surface. -/
def normal {α : Type} (p : Placement α) : Vec3 α := p.rotation.col3

/-- The local coordinates of a global point. -/
def pointToLocal (p : Placement α) (x : Vec3 α) : Vec3 α := p.toLocal.point x

/-- The local components of a global direction. -/
def vectorToLocal (p : Placement α) (v : Vec3 α) : Vec3 α := p.toLocal.vector v

/-- The global coordinates of a local point. -/
def pointToGlobal (p : Placement α) (x : Vec3 α) : Vec3 α := p.toGlobal.point x

/-- The global components of a local direction. -/
def vectorToGlobal (p : Placement α) (v : Vec3 α) : Vec3 α := p.toGlobal.vector v

/-- Whether both maps of the placement are those of the identity, up to the signs of zeros. -/
def isIdentity [BEq α] (p : Placement α) : Bool :=
  p.toGlobal == identity.toGlobal && p.toLocal == (identity : Placement α).toLocal

end Placement

end DetectorReadout
