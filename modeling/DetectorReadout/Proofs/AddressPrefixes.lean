import DetectorReadout.Proofs.AddressFields

/-!
# The leading fields of an address

The fields of an address from the volume down to some level are the leading digits of its word: they make a number, which is what
is left of the word without the digits below (`GeometryId.leading`). Addresses agree on all these fields exactly if the numbers are
the same (`GeometryId.leading_eq_iff`), because a level adds one digit to the number of the level above. Clearing the digits below
gives the first address with these leading fields and filling them gives the last one, so the addresses in between are those that
agree down to the level (`GeometryId.between_iff`).
-/

namespace DetectorReadout

/-- The word with ones at the bits below a given one. -/
theorem toNat_ones {bit : UInt64} (h : bit.toNat < 64) : ((1 <<< bit : UInt64) - 1).toNat = (1 <<< bit.toNat) - 1 := by
  have hpower : (1 <<< bit : UInt64).toNat = 2 ^ bit.toNat := by
    rw [UInt64.toNat_shiftLeft, UInt64.toNat_one, Nat.mod_eq_of_lt h, Nat.one_shiftLeft,
      Nat.mod_eq_of_lt (Nat.pow_lt_pow_right (by decide) h)]
  have hone : (1 : UInt64) ≤ 1 <<< bit := by
    rw [UInt64.le_iff_toNat_le, hpower]
    exact Nat.one_le_two_pow
  rw [UInt64.toNat_sub_of_le _ _ hone, hpower, UInt64.toNat_one, Nat.one_shiftLeft]

/-- Setting the bits of a number below a given one keeps what is above them. -/
theorem or_ones (n k : Nat) : n ||| ((1 <<< k) - 1) = n / (1 <<< k) * (1 <<< k) + ((1 <<< k) - 1) := by
  rw [Nat.one_shiftLeft]
  have hlt : 2 ^ k - 1 < 2 ^ k := Nat.sub_lt (Nat.two_pow_pos k) Nat.one_pos
  have habove : (n ||| (2 ^ k - 1)) / 2 ^ k = n / 2 ^ k := by
    rw [Nat.or_div_two_pow, Nat.div_eq_of_lt hlt, Nat.or_zero]
  have hbelow : (n ||| (2 ^ k - 1)) % 2 ^ k = 2 ^ k - 1 := by
    have hrest := Nat.or_lt_two_pow (Nat.mod_lt n (Nat.two_pow_pos k)) hlt
    have hall : 2 ^ k - 1 ≤ n % 2 ^ k ||| (2 ^ k - 1) := Nat.right_le_or
    rw [Nat.or_mod_two_pow, Nat.mod_eq_of_lt hlt]
    omega
  have hdigits := Nat.div_add_mod' (n ||| (2 ^ k - 1)) (2 ^ k)
  rw [habove, hbelow] at hdigits
  exact hdigits.symm

/-- The last digit of a number and the number above it can be told from the number. -/
theorem digits_eq_iff {base a b r s : Nat} (hr : r < base) (hs : s < base) : a * base + r = b * base + s ↔ a = b ∧ r = s := by
  constructor
  · intro h
    have hpos := Nat.zero_lt_of_lt hr
    have hdigit := congrArg (· % base) h
    have habove := congrArg (· / base) h
    simp only [Nat.mul_add_mod_self_right, Nat.mod_eq_of_lt hr, Nat.mod_eq_of_lt hs] at hdigit
    simp only [Nat.mul_comm _ base, Nat.mul_add_div hpos, Nat.div_eq_of_lt hr, Nat.div_eq_of_lt hs, Nat.add_zero] at habove
    exact ⟨habove, hdigit⟩
  · rintro ⟨rfl, rfl⟩
    rfl

namespace GeometryField

/-- How many levels are above a level. -/
def level : GeometryField → Nat
  | volume => 0
  | boundary => 1
  | layer => 2
  | approach => 3
  | sensitive => 4

/-- The next level below. -/
def below? : GeometryField → Option GeometryField
  | volume => some boundary
  | boundary => some layer
  | layer => some approach
  | approach => some sensitive
  | sensitive => none

theorem mem_all (f : GeometryField) : f ∈ all := by
  cases f <;> decide

/-- What holds of the volume, and of each level below one of which it holds, holds of all levels. -/
@[elab_as_elim]
theorem top_down {motive : GeometryField → Prop} (volume : motive .volume)
    (below : ∀ f g, f.below? = some g → motive f → motive g) (f : GeometryField) : motive f := by
  have hboundary := below _ .boundary rfl volume
  have hlayer := below _ .layer rfl hboundary
  have happroach := below _ .approach rfl hlayer
  cases f with
  | volume => exact volume
  | boundary => exact hboundary
  | layer => exact hlayer
  | approach => exact happroach
  | sensitive => exact below _ .sensitive rfl happroach

/-- The levels down to the next one below are those down to a level and this one. -/
theorem level_le_iff {f g : GeometryField} (h : f.below? = some g) (e : GeometryField) :
    e.level ≤ g.level ↔ e.level ≤ f.level ∨ e = g := by
  cases f <;> cases h <;> cases e <;> decide

/-- A level counts in units of the next one below, as many as this one can hold. -/
theorem unit_of_below {f g : GeometryField} (h : f.below? = some g) : f.unit = g.unit * g.capacity := by
  cases f <;> cases h <;> rfl

theorem toNat_prefixMask (f : GeometryField) : f.prefixMask.toNat = ((1 <<< (64 - f.shift)) - 1) <<< f.shift := by
  cases f <;> decide +kernel

end GeometryField

namespace GeometryId

variable {x y : GeometryId} {f g : GeometryField}

/-! ## The number of the leading fields -/

/-- The number that is made of the field and of all fields above it. -/
def leading (x : GeometryId) (f : GeometryField) : Nat := x.value.toNat / f.unit

/-- The addresses agree on the field and on all fields above it. -/
def AgreesDownTo (x y : GeometryId) (f : GeometryField) : Prop := ∀ g, g.level ≤ f.level → x.get g = y.get g

instance (x y : GeometryId) (f : GeometryField) : Decidable (x.AgreesDownTo y f) :=
  decidable_of_iff (∀ g ∈ GeometryField.all, g.level ≤ f.level → x.get g = y.get g)
    ⟨fun h g => h g g.mem_all, fun h g _ => h g⟩

theorem leading_volume (x : GeometryId) : x.leading .volume = (x.get .volume).toNat := by
  have hword := x.value.toNat_lt
  rw [toNat_get, leading]
  simp only [GeometryField.unit, GeometryField.capacity]
  omega

/-- The next level below adds its field as a digit. -/
theorem leading_of_below (h : f.below? = some g) (x : GeometryId) :
    x.leading g = x.leading f * g.capacity + (x.get g).toNat := by
  rw [toNat_get, leading, leading, GeometryField.unit_of_below h, ← Nat.div_div_eq_div_mul, Nat.div_add_mod']

theorem toNat_get_lt (x : GeometryId) (f : GeometryField) : (x.get f).toNat < f.capacity := by
  rw [toNat_get]
  exact Nat.mod_lt _ f.capacity_pos

/-- To agree down to the next level is to agree down to this one and on the next. -/
theorem agreesDownTo_of_below (h : f.below? = some g) :
    x.AgreesDownTo y g ↔ x.AgreesDownTo y f ∧ x.get g = y.get g := by
  simp only [AgreesDownTo, GeometryField.level_le_iff h, or_imp, forall_and, forall_eq]

theorem agreesDownTo_volume : x.AgreesDownTo y .volume ↔ x.get .volume = y.get .volume := by
  refine ⟨fun h => h .volume (Nat.le_refl 0), fun h e he => ?_⟩
  cases e with
  | volume => exact h
  | _ => exact absurd he (by decide)

/-- Addresses agree down to a level exactly if their leading fields make the same number. -/
theorem leading_eq_iff (f : GeometryField) : x.leading f = y.leading f ↔ x.AgreesDownTo y f := by
  induction f using GeometryField.top_down with
  | volume => rw [leading_volume, leading_volume, UInt64.toNat_inj, agreesDownTo_volume]
  | below f g h ih =>
    rw [agreesDownTo_of_below h, ← ih, ← UInt64.toNat_inj, leading_of_below h, leading_of_below h]
    exact digits_eq_iff (x.toNat_get_lt g) (y.toNat_get_lt g)

/-- Addresses that agree down to the lowest level are equal. -/
theorem agreesDownTo_sensitive : x.AgreesDownTo y .sensitive ↔ x = y := by
  constructor
  · intro h
    refine ext_get fun g => h g ?_
    cases g <;> decide
  · rintro rfl
    exact fun _ _ => rfl

/-! ## The first and the last address below a place -/

/-- The first address with the given leading fields is their number, followed by zeros. -/
theorem toNat_and_prefixMask (x : GeometryId) (f : GeometryField) :
    (x.value &&& f.prefixMask).toNat = x.leading f * f.unit := by
  have hshift : f.shift ≤ 64 := by cases f <;> decide
  have hquotient : x.value.toNat / 2 ^ f.shift < 2 ^ (64 - f.shift) := by
    rw [Nat.div_lt_iff_lt_mul (Nat.two_pow_pos _), ← Nat.pow_add, Nat.sub_add_cancel hshift]
    exact x.value.toNat_lt
  have habove : (x.value &&& f.prefixMask).toNat / 2 ^ f.shift = x.value.toNat / 2 ^ f.shift := by
    rw [UInt64.toNat_and, f.toNat_prefixMask, Nat.and_div_two_pow, Nat.shiftLeft_eq, Nat.mul_div_cancel _ (Nat.two_pow_pos _),
      Nat.one_shiftLeft, Nat.and_two_pow_sub_one_eq_mod, Nat.mod_eq_of_lt hquotient]
  have hbelow : (x.value &&& f.prefixMask).toNat % 2 ^ f.shift = 0 := by
    rw [UInt64.toNat_and, f.toNat_prefixMask, Nat.and_mod_two_pow, Nat.shiftLeft_eq, Nat.mul_mod_left, Nat.and_zero]
  rw [leading, GeometryField.unit_eq, Nat.one_shiftLeft, ← habove, Nat.div_mul_cancel (Nat.dvd_of_mod_eq_zero hbelow)]

/-- The last address below a place has all bits below the lowest one of the mask, and the bits of the place from there on. -/
theorem toNat_lastBelow (x : GeometryId) {mask : UInt64} (h : mask ≠ 0) :
    (x.lastBelow mask).value.toNat = x.value.toNat / (1 <<< (lowestBit mask).toNat) * (1 <<< (lowestBit mask).toNat) +
      ((1 <<< (lowestBit mask).toNat) - 1) := by
  rw [lastBelow, if_neg h, ← or_ones, ← toNat_ones (lowestBit_lt h)]
  exact UInt64.toNat_or _ _

/-- The last address below a place at a level is the number of its leading fields, followed by the largest digits. -/
theorem toNat_lastBelow_mask (x : GeometryId) (f : GeometryField) :
    (x.lastBelow f.mask).value.toNat = x.leading f * f.unit + (f.unit - 1) := by
  have hmask : f.mask ≠ 0 := by cases f <;> decide
  have hbit : (lowestBit f.mask).toNat = f.shift := by
    rw [← f.lowestBit_mask, Nat.mod_eq_of_lt (lowestBit_lt hmask)]
  rw [toNat_lastBelow x hmask, hbit, ← GeometryField.unit_eq, leading]

/-- The addresses from the first one below a place to the last are those that agree with the place down to its level. -/
theorem between_iff {place : GeometryId} :
    (⟨place.value &&& f.prefixMask⟩ ≤ x ∧ x ≤ lastBelow ⟨place.value &&& f.prefixMask⟩ f.mask) ↔ x.AgreesDownTo place f := by
  have hfirst := toNat_and_prefixMask place f
  have hleading : leading ⟨place.value &&& f.prefixMask⟩ f = place.leading f := by
    rw [leading, hfirst, Nat.mul_div_cancel _ f.unit_pos]
  have hlast := toNat_lastBelow_mask ⟨place.value &&& f.prefixMask⟩ f
  rw [hleading] at hlast
  have hle (u v : GeometryId) : u ≤ v ↔ u.value.toNat ≤ v.value.toNat := UInt64.le_iff_toNat_le
  rw [← leading_eq_iff, hle, hle, hlast, hfirst, ← Nat.add_sub_assoc f.unit_pos, ← Nat.div_eq_iff f.unit_pos]
  rfl

end GeometryId

end DetectorReadout
