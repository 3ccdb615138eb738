import Mathlib.Algebra.Ring.Nat

/-!
# Digits and order

Where fields of a word lie side by side, they are the digits of the word in a mixed radix: one digit for each of a list of
capacities, the most significant one first. Numbers below the product of the capacities are ordered as their digits are, from the
first digit on (`MixedRadix.lt_iff_digits_lt`). So are words, by the words in their fields (`MixedRadix.lt_iff_fields_lt`).
-/

namespace DetectorReadout

namespace MixedRadix

/-- The digits of a number for the given capacities, the most significant one first. What is above the first digit is lost. -/
def digits : List Nat → Nat → List Nat
  | [], _ => []
  | capacity :: rest, n => n / rest.prod % capacity :: digits rest n

/-- The digits do not see what is above them. -/
theorem digits_mod_prod (capacities : List Nat) (n : Nat) : digits capacities (n % capacities.prod) = digits capacities n := by
  induction capacities generalizing n with
  | nil => rfl
  | cons capacity rest ih =>
    have hfirst : n % (capacity * rest.prod) / rest.prod % capacity = n / rest.prod % capacity := by
      rw [Nat.mod_mul_left_div_self, Nat.mod_mod]
    have hrest : digits rest (n % (capacity * rest.prod)) = digits rest n := by
      rw [← ih, Nat.mod_mul_left_mod, ih]
    rw [List.prod_cons, digits, digits, hfirst, hrest]

/-- Numbers compare by their quotients first, and by their remainders if the quotients are the same. -/
theorem lt_iff_div_mod (base m n : Nat) :
    m < n ↔ m / base < n / base ∨ m / base = n / base ∧ m % base < n % base := by
  have hm := Nat.div_add_mod m base
  have hn := Nat.div_add_mod n base
  rcases Nat.lt_trichotomy (m / base) (n / base) with hlt | heq | hgt
  · exact iff_of_true (Nat.lt_of_div_lt_div hlt) (.inl hlt)
  · rw [heq] at hm ⊢
    omega
  · have hnm := Nat.lt_of_div_lt_div hgt
    omega

/-- Numbers are ordered as their digits are, from the first digit on. -/
theorem lt_iff_digits_lt {capacities : List Nat} {m n : Nat} (hm : m < capacities.prod) (hn : n < capacities.prod) :
    m < n ↔ digits capacities m < digits capacities n := by
  induction capacities generalizing m n with
  | nil =>
    rw [List.prod_nil, Nat.lt_one_iff] at hm hn
    subst hm hn
    exact iff_of_false (Nat.lt_irrefl 0) (List.not_lt_nil _)
  | cons capacity rest ih =>
    rw [List.prod_cons] at hm hn
    have hpos : 0 < rest.prod := Nat.pos_of_mul_pos_left (Nat.zero_lt_of_lt hm)
    have hfirst {k : Nat} (hk : k < capacity * rest.prod) : k / rest.prod % capacity = k / rest.prod :=
      Nat.mod_eq_of_lt ((Nat.div_lt_iff_lt_mul hpos).2 hk)
    have hrest : m % rest.prod < n % rest.prod ↔ digits rest m < digits rest n := by
      rw [ih (Nat.mod_lt m hpos) (Nat.mod_lt n hpos), digits_mod_prod, digits_mod_prod]
    rw [digits, digits, List.cons_lt_cons_iff, hfirst hm, hfirst hn, ← hrest]
    exact lt_iff_div_mod rest.prod m n

/-- Lists of words are ordered as the lists of their numbers. -/
theorem map_toNat_lt {v w : List UInt64} : v.map UInt64.toNat < w.map UInt64.toNat ↔ v < w := by
  induction v generalizing w with
  | nil => cases w <;> simp
  | cons a v ih =>
    cases w with
    | nil => simp
    | cons b w => rw [List.map_cons, List.map_cons, List.cons_lt_cons_iff, List.cons_lt_cons_iff, ih, UInt64.toNat_inj,
        UInt64.lt_iff_toNat_lt]

/-- Words are ordered as the words in their fields are, from the first field on, if the fields are the digits of the word. -/
theorem lt_iff_fields_lt {capacities : List Nat} (fields : UInt64 → List UInt64) (hall : capacities.prod = UInt64.size)
    (hfields : ∀ w, (fields w).map UInt64.toNat = digits capacities w.toNat) (v w : UInt64) :
    v < w ↔ fields v < fields w := by
  have hword (w : UInt64) : w.toNat < capacities.prod := hall ▸ w.toNat_lt_size
  rw [UInt64.lt_iff_toNat_lt, lt_iff_digits_lt (hword v) (hword w), ← hfields, ← hfields, map_toNat_lt]

end MixedRadix

end DetectorReadout
