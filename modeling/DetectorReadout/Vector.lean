import DetectorReadout.Scalar

/-!
# Vectors and matrices

Vectors of the plane and of space over any scalars, and matrices given by their columns. Sums run from left to right, and
no product is fused with a sum, so over binary64 numbers every result has one value.
-/

namespace DetectorReadout

/-- A vector of the plane. -/
structure Vec2 (α : Type) where
  /-- First component. -/
  x : α
  /-- Second component. -/
  y : α
deriving DecidableEq, BEq, Repr, Inhabited

/-- A vector of space. -/
structure Vec3 (α : Type) where
  /-- First component. -/
  x : α
  /-- Second component. -/
  y : α
  /-- Third component. -/
  z : α
deriving DecidableEq, BEq, Repr, Inhabited

/-- A matrix of two columns of the plane. -/
structure Mat2 (α : Type) where
  /-- First column. -/
  col1 : Vec2 α
  /-- Second column. -/
  col2 : Vec2 α
deriving DecidableEq, BEq, Repr, Inhabited

/-- A matrix of three columns of space. -/
structure Mat3 (α : Type) where
  /-- First column. -/
  col1 : Vec3 α
  /-- Second column. -/
  col2 : Vec3 α
  /-- Third column. -/
  col3 : Vec3 α
deriving DecidableEq, BEq, Repr, Inhabited

variable {α : Type} [Scalar α]

namespace Vec2

instance : Zero (Vec2 α) := ⟨⟨0, 0⟩⟩

instance : Add (Vec2 α) := ⟨fun u v => ⟨u.x + v.x, u.y + v.y⟩⟩

/-- A vector scaled by a number. -/
instance : HMul (Vec2 α) α (Vec2 α) := ⟨fun u r => ⟨u.x * r, u.y * r⟩⟩

/-- A vector with every component divided by a number. -/
instance : HDiv (Vec2 α) α (Vec2 α) := ⟨fun u r => ⟨u.x / r, u.y / r⟩⟩

/-- The vector in space with a third component. -/
def extend {α : Type} (u : Vec2 α) (z : α) : Vec3 α := ⟨u.x, u.y, z⟩

end Vec2

namespace Vec3

instance : Zero (Vec3 α) := ⟨⟨0, 0, 0⟩⟩

instance : Add (Vec3 α) := ⟨fun u v => ⟨u.x + v.x, u.y + v.y, u.z + v.z⟩⟩

instance : Sub (Vec3 α) := ⟨fun u v => ⟨u.x - v.x, u.y - v.y, u.z - v.z⟩⟩

instance : Neg (Vec3 α) := ⟨fun u => ⟨-u.x, -u.y, -u.z⟩⟩

/-- A vector scaled by a number. -/
instance : HMul (Vec3 α) α (Vec3 α) := ⟨fun u r => ⟨u.x * r, u.y * r, u.z * r⟩⟩

/-- The vector without its third component. -/
def truncate {α : Type} (u : Vec3 α) : Vec2 α := ⟨u.x, u.y⟩

/-- Scalar product. -/
def dot (u v : Vec3 α) : α := u.x * v.x + u.y * v.y + u.z * v.z

/-- Vector product. -/
def cross (u v : Vec3 α) : Vec3 α :=
  ⟨u.y * v.z - v.y * u.z, u.z * v.x - v.z * u.x, u.x * v.y - v.x * u.y⟩

/-- Length. -/
def length (u : Vec3 α) : α := Scalar.sqrt (u.dot u)

/-- The vector of length one in the same direction. A vector whose length has no finite reciprocal has no direction and
gives zero. -/
def unit (u : Vec3 α) : Vec3 α :=
  if Scalar.isFinite (1 / u.length) ∧ 0 < 1 / u.length then u * (1 / u.length) else 0

end Vec3

namespace Mat2

/-- The matrix with the given diagonal and zeros elsewhere. -/
def diagonal (u : Vec2 α) : Mat2 α := ⟨⟨u.x, 0⟩, ⟨0, u.y⟩⟩

/-- The entries, column by column. -/
def entries {α : Type} (m : Mat2 α) : List α := [m.col1.x, m.col1.y, m.col2.x, m.col2.y]

end Mat2

namespace Mat3

/-- The matrix with the given diagonal and zeros elsewhere. -/
def diagonal (u : Vec3 α) : Mat3 α := ⟨⟨u.x, 0, 0⟩, ⟨0, u.y, 0⟩, ⟨0, 0, u.z⟩⟩

/-- The matrix that changes nothing. -/
def identity : Mat3 α := diagonal ⟨1, 1, 1⟩

/-- The image of a vector. -/
def apply (m : Mat3 α) (u : Vec3 α) : Vec3 α := m.col1 * u.x + m.col2 * u.y + m.col3 * u.z

/-- The matrix with rows and columns exchanged. -/
def transpose {α : Type} (m : Mat3 α) : Mat3 α :=
  ⟨⟨m.col1.x, m.col2.x, m.col3.x⟩, ⟨m.col1.y, m.col2.y, m.col3.y⟩, ⟨m.col1.z, m.col2.z, m.col3.z⟩⟩

/-- Determinant. -/
def det (m : Mat3 α) : α := m.col3.dot (m.col1.cross m.col2)

/-- The inverse matrix: its rows are the vector products of the columns over the determinant. A matrix without determinant
has no inverse, and the result means nothing. -/
def inverse (m : Mat3 α) : Mat3 α :=
  let d := 1 / m.det
  transpose ⟨m.col2.cross m.col3 * d, m.col3.cross m.col1 * d, m.col1.cross m.col2 * d⟩

/-- The entries, column by column. -/
def entries {α : Type} (m : Mat3 α) : List α :=
  [m.col1.x, m.col1.y, m.col1.z, m.col2.x, m.col2.y, m.col2.z, m.col3.x, m.col3.y, m.col3.z]

end Mat3

end DetectorReadout
