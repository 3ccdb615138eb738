import Mathlib.Tactic.LinearCombination
import DetectorReadout.LocalHit
import DetectorReadout.Proofs.ExactScalars

/-!
# Rigid placements

A placement keeps the distances of points exactly if its local axes are of length one and at right angles to each other, and
exactly then every direction is still of length one in the local frame (`Placement.keepsDistances_iff`,
`Surface.keepsUnits_iff`). A placement is not checked for this when it is made. The way to the local frame is the inverse
matrix, which keeps lengths if and only if the matrix itself does (`Mat3.isometric_inverse_iff`).
-/

namespace DetectorReadout

namespace Mat3

/-- The columns are of length one and at right angles to each other. -/
structure Orthonormal (m : Mat3 ℝ) : Prop where
  unit1 : m.col1.dot m.col1 = 1
  unit2 : m.col2.dot m.col2 = 1
  unit3 : m.col3.dot m.col3 = 1
  perp12 : m.col1.dot m.col2 = 0
  perp13 : m.col1.dot m.col3 = 0
  perp23 : m.col2.dot m.col3 = 0

/-- The matrix keeps the length of every vector. -/
def Isometric (m : Mat3 ℝ) : Prop := ∀ v, (m.apply v).length = v.length

section Inverse

variable (m : Mat3 ℝ) (v w : Vec3 ℝ)

theorem apply_sub : m.apply (v - w) = m.apply v - m.apply w := by
  apply Vec3.ext <;> simp only [apply, Vec3.add_components, Vec3.mul_components, Vec3.sub_components] <;> ring

theorem apply_mul (r : ℝ) : m.apply (v * r) = m.apply v * r := by
  apply Vec3.ext <;> simp only [apply, Vec3.add_components, Vec3.mul_components] <;> ring

theorem apply_zero : m.apply 0 = 0 := by
  apply Vec3.ext <;> simp [apply]

/-- The product of an image with itself, by the products of the columns. -/
theorem dot_self_apply :
    (m.apply v).dot (m.apply v) =
      v.x ^ 2 * m.col1.dot m.col1 + v.y ^ 2 * m.col2.dot m.col2 + v.z ^ 2 * m.col3.dot m.col3 +
        2 * (v.x * v.y * m.col1.dot m.col2 + v.x * v.z * m.col1.dot m.col3 + v.y * v.z * m.col2.dot m.col3) := by
  simp only [apply, Vec3.dot, Vec3.add_components, Vec3.mul_components]
  ring

variable {m}

/-- A matrix keeps lengths exactly if its columns do as the axes. -/
theorem isometric_iff : m.Isometric ↔ m.Orthonormal := by
  simp only [Isometric, Vec3.length_eq_length_iff, dot_self_apply]
  constructor
  · intro h
    have h1 : m.col1.dot m.col1 = 1 := by simpa [Vec3.dot] using h ⟨1, 0, 0⟩
    have h2 : m.col2.dot m.col2 = 1 := by simpa [Vec3.dot] using h ⟨0, 1, 0⟩
    have h3 : m.col3.dot m.col3 = 1 := by simpa [Vec3.dot] using h ⟨0, 0, 1⟩
    -- The sum of two axes has the length that right angles give it.
    have h12 := h ⟨1, 1, 0⟩
    have h13 := h ⟨1, 0, 1⟩
    have h23 := h ⟨0, 1, 1⟩
    simp only [h1, h2, h3] at h12 h13 h23
    norm_num [Vec3.dot] at h12 h13 h23
    exact ⟨h1, h2, h3, h12, h13, h23⟩
  · intro h v
    rw [h.unit1, h.unit2, h.unit3, h.perp12, h.perp13, h.perp23, Vec3.dot]
    ring

theorem Orthonormal.det_ne_zero (h : m.Orthonormal) : m.det ≠ 0 := by
  have hgram : m.det ^ 2 =
      m.col1.dot m.col1 * m.col2.dot m.col2 * m.col3.dot m.col3 +
        2 * m.col1.dot m.col2 * m.col1.dot m.col3 * m.col2.dot m.col3 -
        m.col1.dot m.col1 * m.col2.dot m.col3 ^ 2 - m.col2.dot m.col2 * m.col1.dot m.col3 ^ 2 -
        m.col3.dot m.col3 * m.col1.dot m.col2 ^ 2 := by
    simp only [det, Vec3.dot, Vec3.cross]
    ring
  rw [h.unit1, h.unit2, h.unit3, h.perp12, h.perp13, h.perp23] at hgram
  intro hdet
  norm_num [hdet] at hgram

/-- The inverse of a matrix without determinant maps everything to zero. -/
theorem inverse_apply_of_det_eq_zero (h : m.det = 0) : m.inverse.apply v = 0 := by
  apply Vec3.ext <;> simp [inverse, apply, transpose, h]

theorem inverse_apply_apply (h : m.det ≠ 0) : m.inverse.apply (m.apply v) = v := by
  have hd : 1 / m.det * m.det = 1 := one_div_mul_cancel h
  simp only [det, Vec3.dot, Vec3.cross] at hd
  apply Vec3.ext <;>
    simp only [inverse, apply, transpose, det, Vec3.dot, Vec3.cross, Vec3.add_components, Vec3.mul_components]
  · linear_combination v.x * hd
  · linear_combination v.y * hd
  · linear_combination v.z * hd

theorem apply_inverse_apply (h : m.det ≠ 0) : m.apply (m.inverse.apply v) = v := by
  have hd : 1 / m.det * m.det = 1 := one_div_mul_cancel h
  simp only [det, Vec3.dot, Vec3.cross] at hd
  apply Vec3.ext <;>
    simp only [inverse, apply, transpose, det, Vec3.dot, Vec3.cross, Vec3.add_components, Vec3.mul_components]
  · linear_combination v.x * hd
  · linear_combination v.y * hd
  · linear_combination v.z * hd

/-- The inverse of a matrix keeps lengths exactly if the columns of the matrix are of length one and at right angles. -/
theorem isometric_inverse_iff : m.inverse.Isometric ↔ m.Orthonormal := by
  constructor
  · intro h
    have hdet : m.det ≠ 0 := by
      intro hdet
      have hlength := h ⟨1, 0, 0⟩
      rw [inverse_apply_of_det_eq_zero _ hdet, Vec3.length_eq_length_iff] at hlength
      norm_num [Vec3.dot] at hlength
    refine isometric_iff.1 fun v => ?_
    rw [← h (m.apply v), inverse_apply_apply v hdet]
  · intro h v
    rw [← isometric_iff.2 h (m.inverse.apply v), apply_inverse_apply v h.det_ne_zero]

theorem orthonormal_identity : (identity : Mat3 ℝ).Orthonormal := by
  constructor <;> simp [identity, diagonal, Vec3.dot]

end Inverse

end Mat3

/-- The image of a difference is the difference of the images. -/
theorem Affine.vector_sub (f : Affine ℝ) (x y : Vec3 ℝ) : f.vector (x - y) = f.point x - f.point y := by
  rw [vector, Mat3.apply_sub]
  apply Vec3.ext <;> simp [point]

namespace Placement

/-- Points are as far from each other in the local frame as in the global one. -/
def KeepsDistances (p : Placement ℝ) : Prop :=
  ∀ x y, (p.pointToLocal x - p.pointToLocal y).length = (x - y).length

variable (p : Placement ℝ)

/-- The shift of a placement drops out of a difference. -/
theorem sub_pointToLocal (x y : Vec3 ℝ) : p.pointToLocal x - p.pointToLocal y = p.rotation.inverse.apply (x - y) :=
  (p.toLocal.vector_sub x y).symm

theorem keepsDistances_iff : p.KeepsDistances ↔ p.rotation.Orthonormal := by
  simp only [KeepsDistances, sub_pointToLocal, ← Mat3.isometric_inverse_iff]
  constructor
  · intro h v
    have hv : v - 0 = v := by apply Vec3.ext <;> simp
    simpa only [hv] using h v 0
  · exact fun h x y => h (x - y)

end Placement

namespace Surface

/-- Every direction other than zero is of length one in the local frame. -/
def KeepsUnits (s : Surface ℝ) (ctx : GeometryContext) : Prop :=
  ∀ position direction, direction ≠ 0 → (s.toLocal ctx position direction).direction.length = 1

theorem keepsUnits_iff (s : Surface ℝ) (ctx : GeometryContext) :
    s.KeepsUnits ctx ↔ (s.placement ctx).rotation.Orthonormal := by
  rw [← Mat3.isometric_inverse_iff]
  constructor
  · intro h v
    by_cases hv : v = 0
    · rw [hv, Mat3.apply_zero]
    · -- A vector is a multiple of its direction, and the inverse matrix scales with it.
      have hpos := v.length_pos_iff.2 hv
      have hunit : v = v.unit * v.length := by
        rw [Vec3.unit_of_ne_zero hv]
        apply Vec3.ext <;> simp [hpos.ne']
      have hone : ((s.placement ctx).rotation.inverse.apply v.unit).length = 1 := h 0 v hv
      calc ((s.placement ctx).rotation.inverse.apply v).length
          = ((s.placement ctx).rotation.inverse.apply v.unit * v.length).length := by rw [← Mat3.apply_mul, ← hunit]
        _ = v.length := by rw [Vec3.length_mul, hone, abs_of_pos hpos, mul_one]
  · intro h position direction hne
    exact (h direction.unit).trans (Vec3.length_unit hne)

end Surface

end DetectorReadout
