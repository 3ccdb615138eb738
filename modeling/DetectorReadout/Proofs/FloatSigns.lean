import DetectorReadout.Binary64.Hypotenuse
import DetectorReadout.Proofs.FloatOrder

/-!
# Results without a minus sign

Sizes and lengths are computed without a minus sign, and so are sums of such values. If they are numbers, they are not negative
(`Binary64.Unsigned.zero_le`).
-/

namespace DetectorReadout

namespace Binary64

open Float.Model Float.Model.UnpackedFloat

/-- A value without a minus sign. -/
def Unsigned (x : Float) : Prop := signOf x.toModel.unpack = .positive

theorem zero_le_rankOf {u : UnpackedFloat} {p : ℤ ×ₗ ℤ ×ₗ ℤ} (hp : rankOf u = some p) (h : signOf u = .positive) :
    toLex (0, toLex (0, 0)) ≤ p := by
  cases u with
  | notANumber => cases hp
  | infinity s =>
    obtain rfl : s = .positive := h
    cases hp
    exact (Prod.Lex.toLex_lt_toLex.2 (.inl (by decide))).le
  | zero s =>
    cases hp
    exact le_rfl
  | finite s m e hm =>
    obtain rfl : s = .positive := h
    cases hp
    exact (Prod.Lex.toLex_lt_toLex.2 (.inl (show (0 : ℤ) < 1 by decide))).le

/-- A number without a minus sign is not negative. -/
theorem Unsigned.zero_le {x : Float} (h : Unsigned x) (hnum : x.isNaN = false) : 0 ≤ x := by
  have hzero : rank 0 = some (toLex (0, toLex (0, 0))) := by decide
  obtain ⟨p, hp⟩ := isNaN_eq_false_iff.1 hnum
  exact le_iff.2 ⟨_, p, hzero, hp, zero_le_rankOf hp h⟩

/-! ## Rounding -/

theorem signOf_round (spec : Format) (s : Sign) (m : ℕ) (e : ℤ) : signOf (UnpackedFloat.round spec s m e) = s := by
  dsimp only [UnpackedFloat.round, roundWithAccuracy]
  rw [apply_dite signOf]
  exact ite_self s

/-- A value that is not negative is rounded to one without a minus sign. -/
theorem signOf_normalize (spec : Format) {m : ℤ} (hm : 0 ≤ m) (e : ℤ) :
    signOf (UnpackedFloat.normalize spec m e .positive) = .positive := by
  rw [UnpackedFloat.normalize]
  split
  · next h => exact absurd (compare_lt_iff_lt.1 h) (not_lt.2 hm)
  · rfl
  · exact signOf_round ..

/-- The sum of two values without a minus sign has none. -/
theorem signOf_add (spec : Format) {u v : UnpackedFloat} (hu : signOf u = .positive) (hv : signOf v = .positive) :
    signOf (UnpackedFloat.add spec u v) = .positive := by
  cases u with
  | notANumber => rfl
  | infinity s =>
    obtain rfl : s = .positive := hu
    cases v with
    | infinity t =>
      obtain rfl : t = .positive := hv
      rfl
    | notANumber | zero t | finite t n f hn => rfl
  | zero s =>
    obtain rfl : s = .positive := hu
    cases v with
    | zero t =>
      obtain rfl : t = .positive := hv
      rfl
    | notANumber => rfl
    | infinity t | finite t n f hn => exact hv
  | finite s m e hm =>
    obtain rfl : s = .positive := hu
    cases v with
    | notANumber => rfl
    | infinity t => exact hv
    | zero t => rfl
    | finite t n f hn =>
      obtain rfl : t = .positive := hv
      exact signOf_normalize spec (Int.add_nonneg (Int.natCast_nonneg _) (Int.natCast_nonneg _)) _

/-! ## Sizes and lengths -/

theorem unsigned_infinity : Unsigned infinity := signOf_unpack_pack rfl

theorem unsigned_abs (x : Float) : Unsigned x.abs := by
  have habs (u : UnpackedFloat) : signOf u.abs = .positive := by cases u <;> rfl
  exact signOf_unpack_pack (habs _)

theorem Unsigned.add {x y : Float} (hx : Unsigned x) (hy : Unsigned y) : Unsigned (x + y) :=
  signOf_unpack_pack (signOf_add _ hx hy)

theorem unsigned_hypotenuse (x y : Float) : Unsigned (hypotenuse x y) := by
  rw [hypotenuse]
  split
  · exact unsigned_infinity
  · dsimp only
    split <;> split
    · exact (unsigned_abs y).add (unsigned_abs x)
    · exact unsigned_abs _
    · exact (unsigned_abs x).add (unsigned_abs y)
    · exact unsigned_abs _

end Binary64

end DetectorReadout
