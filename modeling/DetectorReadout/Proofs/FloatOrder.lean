import DetectorReadout.Proofs.FloatPacking
import DetectorReadout.Scalar
import Mathlib.Algebra.Order.Group.Unbundled.Int
import Mathlib.Data.Prod.Lex
import Mathlib.Order.Compare

/-!
# The order of binary64 numbers

A binary64 number has a rank in a linear order, and numbers compare as their ranks do (`Binary64.le_iff`, `Binary64.lt_iff`). The
value that stands for no number has no rank and compares with nothing. So the larger and the smaller of two numbers are what they
are in every linear order (`Binary64.max_le_iff`, `Binary64.lt_min_iff`), and positive infinity is the one number that is not below
it (`Binary64.lt_infinity_iff`).
-/

namespace DetectorReadout

namespace Binary64

open Float.Model Float.Model.UnpackedFloat

/-! ## Ranks -/

/-- The rank of an unpacked value: negative infinity, the negative numbers, the zeros, the positive numbers, positive infinity, and
the numbers of one sign by their exponents and then by their significands. -/
def rankOf : UnpackedFloat → Option (ℤ ×ₗ ℤ ×ₗ ℤ)
  | .notANumber => none
  | .infinity s => some (toLex (s.apply 2, toLex (0, 0)))
  | .zero _ => some (toLex (0, toLex (0, 0)))
  | .finite s m e _ => some (toLex (s.apply 1, toLex (s.apply e, s.apply m)))

/-- The rank of a value. -/
def rank (x : Float) : Option (ℤ ×ₗ ℤ ×ₗ ℤ) := rankOf x.toModel.unpack

theorem compare_toLex {α β : Type} [Ord α] [Ord β] (a b : α) (p q : β) :
    compare (toLex (a, p)) (toLex (b, q)) = (compare a b).then (compare p q) := by
  rw [Prod.Lex.compare_def]
  rfl

theorem compare_natCast (m n : ℕ) : compare (m : ℤ) (n : ℤ) = compare m n := by
  rw [← cmp_eq_compare, ← cmp_eq_compare]
  exact Int.natCast_strictMono.cmp_map_eq m n

theorem compare_neg (a b : ℤ) : compare (-a) (-b) = (compare a b).swap := by
  have hanti : StrictAnti fun z : ℤ => -z := fun _ _ => Int.neg_lt_neg
  rw [← cmp_eq_compare, ← cmp_eq_compare, cmp_swap]
  exact hanti.cmp_map_eq a b

/-- Values compare as their ranks do. -/
theorem compare_eq (u v : UnpackedFloat) :
    u.compare v = (rankOf u).bind fun p => (rankOf v).map fun q => compare p q := by
  -- Unless both values are finite and of one sign, the classes decide.
  rcases u with (_ | _) | _ | (_ | _) | ⟨_ | _, m, e, -⟩ <;>
    rcases v with (_ | _) | _ | (_ | _) | ⟨_ | _, n, f, -⟩ <;> try rfl
  · show some ((compare e f).then (compare m n)).swap =
      some (compare (toLex ((-1 : ℤ), toLex (-e, -(m : ℤ)))) (toLex (-1, toLex (-f, -n))))
    rw [compare_toLex, compare_toLex, Ordering.swap_then, compare_neg e f, compare_neg m n, compare_natCast]
    rfl
  · show some ((compare e f).then (compare m n)) =
      some (compare (toLex ((1 : ℤ), toLex (e, (m : ℤ)))) (toLex (1, toLex (f, n))))
    rw [compare_toLex, compare_toLex, compare_natCast]
    rfl

variable {x y a b : Float}

/-- Only numbers have a rank. -/
theorem isNaN_eq_false_iff : x.isNaN = false ↔ ∃ p, rank x = some p := by
  show x.toModel.unpack.isNaN = false ↔ ∃ p, rankOf x.toModel.unpack = some p
  cases x.toModel.unpack with
  | notANumber =>
    refine ⟨fun h => ?_, fun ⟨p, hp⟩ => ?_⟩
    · cases h
    · cases hp
  | infinity s | zero s | finite s m e hm => exact ⟨fun _ => ⟨_, rfl⟩, fun _ => rfl⟩

/-- A number is at most another exactly if its rank is. -/
theorem le_iff : x ≤ y ↔ ∃ p q, rank x = some p ∧ rank y = some q ∧ p ≤ q := by
  have hle : x ≤ y ↔ (x.toModel.unpack.compare y.toModel.unpack).any (·.isLE) := by
    show decide (x.toModel ≤ y.toModel) = true ↔ _
    exact decide_eq_true_iff
  rw [hle, compare_eq]
  show ((rank x).bind fun p => (rank y).map fun q => compare p q).any (·.isLE) ↔ _
  cases rank x with
  | none => simp
  | some p =>
    cases rank y with
    | none => simp
    | some q => simp [Ordering.isLE_iff_ne_gt, compare_le_iff_le]

/-- A number is below another exactly if its rank is. -/
theorem lt_iff : x < y ↔ ∃ p q, rank x = some p ∧ rank y = some q ∧ p < q := by
  have hlt : x < y ↔ x.toModel.unpack.compare y.toModel.unpack = some .lt := by
    show decide (x.toModel < y.toModel) = true ↔ _
    rw [decide_eq_true_iff]
    exact beq_iff_eq
  rw [hlt, compare_eq]
  show ((rank x).bind fun p => (rank y).map fun q => compare p q) = some .lt ↔ _
  cases rank x with
  | none => simp
  | some p =>
    cases rank y with
    | none => simp
    | some q => simp [compare_lt_iff_lt]

/-! ## The linear order of the numbers -/

protected theorem le_trans (hxy : x ≤ y) (hya : y ≤ a) : x ≤ a := by
  obtain ⟨p, q, hp, hq, hpq⟩ := le_iff.1 hxy
  obtain ⟨q', r, hq', hr, hqr⟩ := le_iff.1 hya
  obtain rfl : q = q' := Option.some.inj (hq.symm.trans hq')
  exact le_iff.2 ⟨p, r, hp, hr, hpq.trans hqr⟩

protected theorem lt_of_lt_of_le (hxy : x < y) (hya : y ≤ a) : x < a := by
  obtain ⟨p, q, hp, hq, hpq⟩ := lt_iff.1 hxy
  obtain ⟨q', r, hq', hr, hqr⟩ := le_iff.1 hya
  obtain rfl : q = q' := Option.some.inj (hq.symm.trans hq')
  exact lt_iff.2 ⟨p, r, hp, hr, hpq.trans_le hqr⟩

protected theorem le_of_lt (h : x < y) : x ≤ y := by
  obtain ⟨p, q, hp, hq, hpq⟩ := lt_iff.1 h
  exact le_iff.2 ⟨p, q, hp, hq, hpq.le⟩

/-- Of two numbers one is below the other or not above it. -/
protected theorem lt_or_le (hx : x.isNaN = false) (hy : y.isNaN = false) : x < y ∨ y ≤ x := by
  obtain ⟨p, hp⟩ := isNaN_eq_false_iff.1 hx
  obtain ⟨q, hq⟩ := isNaN_eq_false_iff.1 hy
  exact (lt_or_ge p q).imp (fun h => lt_iff.2 ⟨p, q, hp, hq, h⟩) fun h => le_iff.2 ⟨q, p, hq, hp, h⟩

protected theorem le_refl (hx : x.isNaN = false) : x ≤ x := by
  obtain ⟨p, hp⟩ := isNaN_eq_false_iff.1 hx
  exact le_iff.2 ⟨p, p, hp, hp, le_rfl⟩

/-- Only numbers compare. -/
theorem isNaN_of_le (h : x ≤ y) : x.isNaN = false ∧ y.isNaN = false := by
  obtain ⟨p, q, hp, hq, -⟩ := le_iff.1 h
  exact ⟨isNaN_eq_false_iff.2 ⟨p, hp⟩, isNaN_eq_false_iff.2 ⟨q, hq⟩⟩

/-- The larger of two numbers is at most what both are at most. -/
theorem max_le_iff (ha : a.isNaN = false) (hb : b.isNaN = false) : Scalar.max a b ≤ x ↔ a ≤ x ∧ b ≤ x := by
  rw [Scalar.max, if_pos (Binary64.le_refl ha)]
  split
  · next hab => exact ⟨fun h => ⟨Binary64.le_trans (Binary64.le_of_lt hab) h, h⟩, And.right⟩
  · next hab =>
    have hba := (Binary64.lt_or_le ha hb).resolve_left hab
    exact ⟨fun h => ⟨h, Binary64.le_trans hba h⟩, And.left⟩

/-- A value is below the smaller of two numbers if it is below both. -/
theorem lt_min_iff (ha : a.isNaN = false) (hb : b.isNaN = false) : x < Scalar.min a b ↔ x < a ∧ x < b := by
  rw [Scalar.min, if_pos (Binary64.le_refl ha)]
  split
  · next hba => exact ⟨fun h => ⟨Binary64.lt_of_lt_of_le h (Binary64.le_of_lt hba), h⟩, And.right⟩
  · next hba =>
    have hab := (Binary64.lt_or_le hb ha).resolve_left hba
    exact ⟨fun h => ⟨h, Binary64.lt_of_lt_of_le h hab⟩, And.left⟩

/-! ## Infinities -/

theorem rank_infinity : rank infinity = some (toLex (2, toLex (0, 0))) := by decide

theorem rank_neg_infinity : rank (-infinity) = some (toLex (-2, toLex (0, 0))) := by decide +kernel

/-- A number that is not infinite is strictly between the infinities. -/
theorem class_of_rankOf {u : UnpackedFloat} {p : ℤ ×ₗ ℤ ×ₗ ℤ} (hp : rankOf u = some p) :
    (u = .infinity .negative ∧ p = toLex (-2, toLex (0, 0))) ∨ (u = .infinity .positive ∧ p = toLex (2, toLex (0, 0))) ∨
      (toLex (-2, toLex (0, 0)) < p ∧ p < toLex (2, toLex (0, 0))) := by
  have hbetween {c : ℤ} {q : ℤ ×ₗ ℤ} (h : -2 < c) (h' : c < 2) :
      toLex (-2, toLex (0, 0)) < toLex (c, q) ∧ toLex (c, q) < toLex (2, toLex (0, 0)) :=
    ⟨Prod.Lex.toLex_lt_toLex.2 (.inl h), Prod.Lex.toLex_lt_toLex.2 (.inl h')⟩
  rcases u with (_ | _) | _ | _ | ⟨_ | _, m, e, hm⟩ <;> cases hp
  case infinity.negative => exact .inl ⟨rfl, rfl⟩
  case infinity.positive => exact .inr (.inl ⟨rfl, rfl⟩)
  all_goals exact .inr (.inr (hbetween (by decide) (by decide)))

/-- All numbers but positive infinity are below it. -/
theorem lt_infinity_iff : x < infinity ↔ x.isNaN = false ∧ x ≠ infinity := by
  constructor
  · intro h
    refine ⟨(isNaN_of_le (Binary64.le_of_lt h)).1, ?_⟩
    rintro rfl
    obtain ⟨p, q, hp, hq, hpq⟩ := lt_iff.1 h
    exact hpq.ne (Option.some.inj (hp.symm.trans hq))
  · rintro ⟨hnum, hne⟩
    obtain ⟨p, hp⟩ := isNaN_eq_false_iff.1 hnum
    refine lt_iff.2 ⟨p, _, hp, rank_infinity, ?_⟩
    rcases class_of_rankOf hp with ⟨-, rfl⟩ | ⟨hx, -⟩ | ⟨-, hlt⟩
    · decide
    · exact absurd (eq_infinity hx) hne
    · exact hlt

/-- No number is below negative infinity. -/
theorem neg_infinity_le_iff : -infinity ≤ x ↔ x.isNaN = false := by
  refine ⟨fun h => (isNaN_of_le h).2, fun hnum => ?_⟩
  obtain ⟨p, hp⟩ := isNaN_eq_false_iff.1 hnum
  refine le_iff.2 ⟨_, p, rank_neg_infinity, hp, ?_⟩
  rcases class_of_rankOf hp with ⟨-, rfl⟩ | ⟨-, rfl⟩ | ⟨hlt, -⟩
  · exact le_rfl
  · decide
  · exact hlt.le

end Binary64

end DetectorReadout
