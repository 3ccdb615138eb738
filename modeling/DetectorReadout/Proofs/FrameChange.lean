import DetectorReadout.Proofs.Rigidity

/-!
# To the local frame and back

Under exact arithmetic, the map of a placement to the global frame and the one to the local frame undo each other, in both orders
and for points as well as for directions, if the axes of the placement have a determinant (`Placement.roundTrips_of_det_ne_zero`).
The axes need not be of length one or at right angles. For the matrix this is `Mat3.inverse_apply_apply` and
`Mat3.apply_inverse_apply`; the shift of the inverse map is the image of the shift under the inverse matrix, with the sign changed,
and so the two shifts cancel.
-/

namespace DetectorReadout

theorem Mat3.apply_add (m : Mat3 ℝ) (v w : Vec3 ℝ) : m.apply (v + w) = m.apply v + m.apply w := by
  apply Vec3.ext <;> simp only [apply, Vec3.add_components, Vec3.mul_components] <;> ring

theorem Mat3.apply_neg (m : Mat3 ℝ) (v : Vec3 ℝ) : m.apply (-v) = -m.apply v := by
  apply Vec3.ext <;> simp only [apply, Vec3.add_components, Vec3.mul_components, Vec3.neg_components] <;> ring

namespace Affine

variable {f : Affine ℝ} (h : f.linear.det ≠ 0) (x : Vec3 ℝ)

include h

theorem inverse_vector_vector : f.inverse.vector (f.vector x) = x :=
  Mat3.inverse_apply_apply x h

theorem vector_inverse_vector : f.vector (f.inverse.vector x) = x :=
  Mat3.apply_inverse_apply x h

theorem inverse_point_point : f.inverse.point (f.point x) = x := by
  have hpoint : f.inverse.point (f.point x) =
      f.linear.inverse.apply (f.linear.apply x + f.shift) + -f.linear.inverse.apply f.shift := rfl
  rw [hpoint, Mat3.apply_add, Mat3.inverse_apply_apply x h]
  apply Vec3.ext <;> simp

theorem point_inverse_point : f.point (f.inverse.point x) = x := by
  have hpoint : f.point (f.inverse.point x) =
      f.linear.apply (f.linear.inverse.apply x + -f.linear.inverse.apply f.shift) + f.shift := rfl
  rw [hpoint, Mat3.apply_add, Mat3.apply_neg, Mat3.apply_inverse_apply x h, Mat3.apply_inverse_apply f.shift h]
  apply Vec3.ext <;> simp

end Affine

namespace Placement

/-- The two maps of a placement undo each other, and the shift drops out of the difference of two points. -/
structure RoundTrips (p : Placement ℝ) : Prop where
  /-- A point of the global frame, brought to the local one and back. -/
  pointToGlobal_pointToLocal : ∀ x, p.pointToGlobal (p.pointToLocal x) = x
  /-- A point of the local frame, brought to the global one and back. -/
  pointToLocal_pointToGlobal : ∀ x, p.pointToLocal (p.pointToGlobal x) = x
  /-- A direction in the global frame, brought to the local one and back. -/
  vectorToGlobal_vectorToLocal : ∀ v, p.vectorToGlobal (p.vectorToLocal v) = v
  /-- A direction in the local frame, brought to the global one and back. -/
  vectorToLocal_vectorToGlobal : ∀ v, p.vectorToLocal (p.vectorToGlobal v) = v
  /-- From one point to another it is the same way in both frames. -/
  vectorToLocal_sub : ∀ x y, p.vectorToLocal (x - y) = p.pointToLocal x - p.pointToLocal y

theorem roundTrips_of_det_ne_zero {p : Placement ℝ} (h : p.rotation.det ≠ 0) : p.RoundTrips where
  pointToGlobal_pointToLocal := Affine.point_inverse_point h
  pointToLocal_pointToGlobal := Affine.inverse_point_point h
  vectorToGlobal_vectorToLocal := Affine.vector_inverse_vector h
  vectorToLocal_vectorToGlobal := Affine.inverse_vector_vector h
  vectorToLocal_sub := p.toLocal.vector_sub

/-- Under exact arithmetic, the two maps of a placement undo each other in both orders, for points and for directions, and a
difference of points is the same whether it is taken before or after it is brought to the local frame: for every placement by axes
that have a determinant and a shift, for every placement by a shift alone, and for the one that changes nothing. -/
theorem frames_undo_each_other :
    (∀ (axes : Mat3 ℝ) (shift : Vec3 ℝ), axes.det ≠ 0 → (ofRotation axes shift).RoundTrips) ∧
      (∀ shift : Vec3 ℝ, (ofShift shift).RoundTrips) ∧ (identity : Placement ℝ).RoundTrips := by
  have hidentity : (Mat3.identity : Mat3 ℝ).det ≠ 0 := Mat3.orthonormal_identity.det_ne_zero
  exact ⟨fun _ _ h => roundTrips_of_det_ne_zero h, fun _ => roundTrips_of_det_ne_zero hidentity,
    roundTrips_of_det_ne_zero hidentity⟩

/-- With axes that are neither of length one nor at right angles, a global point is brought back to the local point that it comes
from. -/
theorem frames_undo_each_other_skewed :
    let axes : Mat3 ℝ := ⟨⟨1, 2, 0⟩, ⟨0, 1, 3⟩, ⟨1, 0, 1⟩⟩
    let p : Placement ℝ := ofRotation axes ⟨10, -5, 2⟩
    axes.det = 7 ∧ p.pointToGlobal ⟨1, 1, 1⟩ = ⟨12, -2, 6⟩ ∧ p.pointToLocal ⟨12, -2, 6⟩ = ⟨1, 1, 1⟩ := by
  intro axes p
  have hdet : axes.det = 7 := by norm_num [axes, Mat3.det, Vec3.dot, Vec3.cross]
  have hglobal : p.pointToGlobal ⟨1, 1, 1⟩ = ⟨12, -2, 6⟩ := by
    apply Vec3.ext <;> norm_num [p, axes, pointToGlobal, Affine.point, Mat3.apply, ofRotation]
  have hround := frames_undo_each_other.1 axes ⟨10, -5, 2⟩ (by norm_num [hdet])
  refine ⟨hdet, hglobal, ?_⟩
  rw [← hglobal]
  exact hround.pointToLocal_pointToGlobal ⟨1, 1, 1⟩

end Placement

end DetectorReadout
