import Mathlib.Analysis.SpecialFunctions.Trigonometric.Basic
import DetectorReadout.Vector

/-!
# Exact arithmetic

The real numbers are scalars, and their operations are those of exact arithmetic. Whatever is said of tracks and placements
under exact arithmetic is said of these scalars: a definition is read over the real numbers in place of the binary64 numbers,
and nothing else about it changes.
-/

namespace DetectorReadout

/-- The real numbers. A remainder has the sign of the value that is divided, and every value is finite. -/
noncomputable instance : Scalar ℝ where
  decLt := Real.decidableLT
  decLe := Real.decidableLE
  totalLe x y := decide (x ≤ y)
  abs x := |x|
  sqrt := Real.sqrt
  ofNat n := n
  toNat x := ⌊x⌋₊
  remainder a n := if 0 ≤ a / n then a - n * ⌊a / n⌋ else a - n * ⌈a / n⌉
  tan := Real.tan
  isFinite _ := true

namespace Scalar

@[simp]
theorem totalLe_real (x y : ℝ) : Scalar.totalLe x y = decide (x ≤ y) := rfl

@[simp]
theorem abs_real (x : ℝ) : Scalar.abs x = |x| := rfl

@[simp]
theorem sqrt_real (x : ℝ) : Scalar.sqrt x = √x := rfl

@[simp]
theorem ofNat_real (n : ℕ) : Scalar.ofNat n = (n : ℝ) := rfl

@[simp]
theorem toNat_real (x : ℝ) : Scalar.toNat x = ⌊x⌋₊ := rfl

@[simp]
theorem max_real (a b : ℝ) : Scalar.max a b = Max.max a b := by
  unfold Scalar.max
  split
  · rename_i h
    exact (max_eq_right h.le).symm
  · rename_i h
    rw [if_pos le_rfl]
    exact (max_eq_left (not_lt.1 h)).symm

@[simp]
theorem min_real (a b : ℝ) : Scalar.min a b = Min.min a b := by
  unfold Scalar.min
  split
  · rename_i h
    exact (min_eq_right h.le).symm
  · rename_i h
    rw [if_pos le_rfl]
    exact (min_eq_left (not_lt.1 h)).symm

theorem modulo_real (a : ℝ) {n : ℝ} (hn : 0 < n) : Scalar.modulo a n = Int.fract (a / n) * n := by
  have hremainder : Scalar.remainder a n = if 0 ≤ a / n then a - n * ⌊a / n⌋ else a - n * ⌈a / n⌉ := rfl
  have ha : a / n * n = a := div_mul_cancel₀ a hn.ne'
  have hfract : Int.fract (a / n) * n = a - n * ⌊a / n⌋ := by
    rw [Int.fract, sub_mul, ha, mul_comm n]
  have hnonneg : 0 ≤ Int.fract (a / n) * n := mul_nonneg (Int.fract_nonneg _) hn.le
  unfold Scalar.modulo
  rw [hremainder, abs_real, abs_of_pos hn]
  by_cases hsign : 0 ≤ a / n
  · rw [if_pos hsign, ← hfract, if_neg (not_lt.2 hnonneg)]
  by_cases hwhole : a / n ∈ Set.range ((↑) : ℤ → ℝ)
  · -- The second value goes into the first without a rest.
    obtain ⟨k, hk⟩ := hwhole
    rw [if_neg hsign, hfract, ← hk, Int.ceil_intCast, Int.floor_intCast, hk, mul_comm n, ha, sub_self, if_neg (lt_irrefl _)]
  · have hlt : Int.fract (a / n) * n < n := by
      simpa using mul_lt_mul_of_pos_right (Int.fract_lt_one (a / n)) hn
    have hceil : a - n * ⌈a / n⌉ = Int.fract (a / n) * n - n := by
      rw [hfract, (Int.ceil_eq_floor_add_one_iff_notMem _).2 hwhole]
      push_cast
      ring
    rw [if_neg hsign, hceil, if_pos (sub_neg.2 hlt), sub_add_cancel]

end Scalar

attribute [ext] Vec3

namespace Vec3

/-! ## Components -/

section Components

variable {α : Type} [Scalar α]

@[simp]
theorem add_components (u v : Vec3 α) :
    (u + v).x = u.x + v.x ∧ (u + v).y = u.y + v.y ∧ (u + v).z = u.z + v.z := ⟨rfl, rfl, rfl⟩

@[simp]
theorem sub_components (u v : Vec3 α) :
    (u - v).x = u.x - v.x ∧ (u - v).y = u.y - v.y ∧ (u - v).z = u.z - v.z := ⟨rfl, rfl, rfl⟩

@[simp]
theorem mul_components (u : Vec3 α) (r : α) :
    (u * r).x = u.x * r ∧ (u * r).y = u.y * r ∧ (u * r).z = u.z * r := ⟨rfl, rfl, rfl⟩

@[simp]
theorem neg_components (u : Vec3 α) : (-u).x = -u.x ∧ (-u).y = -u.y ∧ (-u).z = -u.z := ⟨rfl, rfl, rfl⟩

@[simp]
theorem zero_components : (0 : Vec3 α).x = 0 ∧ (0 : Vec3 α).y = 0 ∧ (0 : Vec3 α).z = 0 := ⟨rfl, rfl, rfl⟩

end Components

/-! ## Lengths -/

variable (u : Vec3 ℝ)

theorem dot_self_nonneg : 0 ≤ u.dot u := by
  have hx := mul_self_nonneg u.x
  have hy := mul_self_nonneg u.y
  have hz := mul_self_nonneg u.z
  exact add_nonneg (add_nonneg hx hy) hz

theorem dot_self_eq_zero_iff : u.dot u = 0 ↔ u = 0 := by
  constructor
  · intro h
    have hx := mul_self_nonneg u.x
    have hy := mul_self_nonneg u.y
    have hz := mul_self_nonneg u.z
    have hsum : u.x * u.x + u.y * u.y + u.z * u.z = 0 := h
    exact Vec3.ext (mul_self_eq_zero.1 (by linarith)) (mul_self_eq_zero.1 (by linarith)) (mul_self_eq_zero.1 (by linarith))
  · rintro rfl
    simp [dot]

theorem length_nonneg : 0 ≤ u.length := Real.sqrt_nonneg _

theorem length_pos_iff : 0 < u.length ↔ u ≠ 0 := by
  rw [length, Scalar.sqrt_real, Real.sqrt_pos, lt_iff_le_and_ne]
  constructor
  · rintro ⟨-, hne⟩ rfl
    exact hne ((dot_self_eq_zero_iff 0).2 rfl).symm
  · exact fun hne => ⟨u.dot_self_nonneg, fun h => hne (u.dot_self_eq_zero_iff.1 h.symm)⟩

/-- Vectors are equally long exactly if their products with themselves are the same. -/
theorem length_eq_length_iff {u v : Vec3 ℝ} : u.length = v.length ↔ u.dot u = v.dot v :=
  Real.sqrt_inj u.dot_self_nonneg v.dot_self_nonneg

theorem dot_self_mul (r : ℝ) : (u * r).dot (u * r) = r ^ 2 * u.dot u := by
  simp only [dot, mul_components]
  ring

theorem length_neg : (-u).length = u.length := by
  rw [length_eq_length_iff]
  simp [dot]

theorem length_mul (r : ℝ) : (u * r).length = |r| * u.length := by
  rw [length, dot_self_mul, Scalar.sqrt_real, Real.sqrt_mul (sq_nonneg r), Real.sqrt_sq_eq_abs]
  rfl

/-- A vector that is not zero has a direction. -/
theorem unit_of_ne_zero {u : Vec3 ℝ} (h : u ≠ 0) : u.unit = u * (1 / u.length) :=
  if_pos ⟨rfl, one_div_pos.2 (u.length_pos_iff.2 h)⟩

@[simp]
theorem unit_zero : (0 : Vec3 ℝ).unit = 0 := by
  have hlength : (0 : Vec3 ℝ).length = 0 := by simp [length, dot]
  refine if_neg fun h => ?_
  rw [hlength, div_zero] at h
  exact lt_irrefl _ h.2

theorem unit_neg : (-u).unit = -u.unit := by
  by_cases h : u = 0
  · subst h
    have hneg : -(0 : Vec3 ℝ) = 0 := by apply Vec3.ext <;> simp
    rw [hneg, unit_zero, hneg]
  · have hneg : -u ≠ 0 := by rwa [← length_pos_iff, length_neg, length_pos_iff]
    rw [unit_of_ne_zero h, unit_of_ne_zero hneg, length_neg]
    apply Vec3.ext <;> simp

theorem length_unit {u : Vec3 ℝ} (h : u ≠ 0) : u.unit.length = 1 := by
  have hpos := u.length_pos_iff.2 h
  rw [unit_of_ne_zero h, length_mul, abs_of_pos (one_div_pos.2 hpos), one_div_mul_cancel hpos.ne']

/-- A direction has itself as direction. -/
theorem unit_unit : u.unit.unit = u.unit := by
  by_cases h : u = 0
  · rw [h, unit_zero, unit_zero]
  · have hne : u.unit ≠ 0 := by
      rw [← length_pos_iff, length_unit h]
      exact one_pos
    rw [unit_of_ne_zero hne, length_unit h]
    apply Vec3.ext <;> simp

end Vec3

end DetectorReadout
