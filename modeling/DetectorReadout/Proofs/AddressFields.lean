import DetectorReadout.GeometryId
import DetectorReadout.Proofs.WordFields

/-!
# Addresses as mixed radix numbers

The fields of an address lie side by side, so its word is a number with the fields as digits: each digit counts the unit of
its field and is less than the capacity of the field (`GeometryId.toNat_value`). The digits determine the address
(`GeometryId.ext_get`), and packing numbers into an address reduces each of them to the capacity of its field
(`GeometryId.toNat_get_ofNumbers`). Replacing a field changes this digit only (`GeometryId.get_set_of_ne`).
-/

namespace DetectorReadout

namespace GeometryField

/-- The place of the lowest bit of the field. -/
def shift : GeometryField → Nat
  | volume => 56
  | boundary => 48
  | layer => 36
  | approach => 28
  | sensitive => 0

/-- The number of bits of the field. -/
def width : GeometryField → Nat
  | volume => 8
  | boundary => 8
  | layer => 12
  | approach => 8
  | sensitive => 28

/-- The numbers that fit in the field are those below its capacity. -/
def capacity : GeometryField → Nat
  | volume => 0x100
  | boundary => 0x100
  | layer => 0x1000
  | approach => 0x100
  | sensitive => 0x10000000

/-- What a one in the field contributes to the word. -/
def unit : GeometryField → Nat
  | volume => 0x100000000000000
  | boundary => 0x1000000000000
  | layer => 0x1000000000
  | approach => 0x10000000
  | sensitive => 1

theorem capacity_eq (f : GeometryField) : f.capacity = 1 <<< f.width := by
  cases f <;> rfl

theorem unit_eq (f : GeometryField) : f.unit = 1 <<< f.shift := by
  cases f <;> rfl

theorem lowestBit_mask (f : GeometryField) : (lowestBit f.mask).toNat % 64 = f.shift := by
  cases f <;> decide +kernel

theorem mask_eq (f : GeometryField) : f.mask.toNat = (f.capacity - 1) <<< f.shift := by
  cases f <;> decide

theorem capacity_pos (f : GeometryField) : 0 < f.capacity := by
  cases f <;> decide

theorem unit_pos (f : GeometryField) : 0 < f.unit := by
  cases f <;> decide

theorem toNat_ofNat_capacity (f : GeometryField) : (UInt64.ofNat f.capacity).toNat = f.capacity := by
  cases f <;> decide

/-- The largest number of a field is the last one below its capacity. -/
theorem toNat_maxValue (f : GeometryField) : f.maxValue.toNat + 1 = f.capacity := by
  cases f <;> decide +kernel

end GeometryField

open GeometryField

/-- The bits under the mask of a field are a digit of the word. -/
theorem toNat_extract (w : UInt64) (f : GeometryField) : (extract w f.mask).toNat = w.toNat / f.unit % f.capacity := by
  rw [unit_eq, capacity_eq]
  exact toNat_extract_run w (by rw [mask_eq, capacity_eq]) f.lowestBit_mask

/-- A number that is moved under the mask of a field loses what is above the capacity of the field. -/
theorem toNat_deposit (v : UInt64) (f : GeometryField) : (deposit v f.mask).toNat = v.toNat % f.capacity * f.unit := by
  have hword : f.mask.toNat % 2 ^ 64 = f.mask.toNat := Nat.mod_eq_of_lt f.mask.toNat_lt
  have hfits : v.toNat % f.capacity * f.unit < 2 ^ 64 := by
    have hdigit := Nat.mod_lt v.toNat f.capacity_pos
    cases f <;> simp only [capacity, unit] at hdigit ⊢ <;> omega
  rw [deposit, UInt64.toNat_and, UInt64.toNat_shiftLeft, lowestBit_mask, ← hword, ← Nat.and_mod_two_pow, mask_eq,
    ← Nat.shiftLeft_and_distrib, capacity_eq, Nat.one_shiftLeft, Nat.and_two_pow_sub_one_eq_mod, Nat.shiftLeft_eq]
  rw [capacity_eq, unit_eq, Nat.one_shiftLeft, Nat.one_shiftLeft] at hfits
  rw [unit_eq, Nat.one_shiftLeft]
  exact Nat.mod_eq_of_lt hfits

/-- Numbers without a common bit are joined to their sum: here all bits of the first are above those of the second. -/
theorem or_eq_add (f : GeometryField) {a b : Nat} (ha : f.unit ∣ a) (hb : b < f.unit) : a ||| b = a + b := by
  rw [unit_eq, Nat.one_shiftLeft] at ha hb
  obtain ⟨c, rfl⟩ := ha
  exact (Nat.two_pow_add_eq_or_of_lt hb c).symm

namespace GeometryId

/-- The number with the given digits. -/
def wordOfDigits (digit : GeometryField → Nat) : Nat :=
  digit .volume * 0x100000000000000 + digit .boundary * 0x1000000000000 + digit .layer * 0x1000000000 +
    digit .approach * 0x10000000 + digit .sensitive

theorem toNat_get (x : GeometryId) (f : GeometryField) : (x.get f).toNat = x.value.toNat / f.unit % f.capacity :=
  toNat_extract x.value f

/-- The word of an address is the number that has the fields as digits. -/
theorem toNat_value (x : GeometryId) : x.value.toNat = wordOfDigits fun f => (x.get f).toNat := by
  have hword := x.value.toNat_lt
  have hvolume : (x.get .volume).toNat = x.value.toNat / 0x100000000000000 % 0x100 := toNat_get x .volume
  have hboundary : (x.get .boundary).toNat = x.value.toNat / 0x1000000000000 % 0x100 := toNat_get x .boundary
  have hlayer : (x.get .layer).toNat = x.value.toNat / 0x1000000000 % 0x1000 := toNat_get x .layer
  have happroach : (x.get .approach).toNat = x.value.toNat / 0x10000000 % 0x100 := toNat_get x .approach
  have hsensitive : (x.get .sensitive).toNat = x.value.toNat / 1 % 0x10000000 := toNat_get x .sensitive
  rw [wordOfDigits]
  omega

/-- Addresses with the same fields are equal. -/
theorem ext_get {x y : GeometryId} (h : ∀ f, x.get f = y.get f) : x = y := by
  have hvalue : x.value.toNat = y.value.toNat := by
    rw [toNat_value x, toNat_value y]
    simp only [h]
  obtain ⟨v⟩ := x
  obtain ⟨w⟩ := y
  exact congrArg mk (UInt64.toNat_inj.1 hvalue)

/-- The address with a number for each field. -/
def ofNumbers (n : GeometryField → UInt64) : GeometryId :=
  pack (n .volume) (n .boundary) (n .layer) (n .approach) (n .sensitive)

/-- Packing puts the digits side by side, each reduced to the capacity of its field. -/
theorem toNat_value_ofNumbers (n : GeometryField → UInt64) :
    (ofNumbers n).value.toNat = wordOfDigits fun f => (n f).toNat % f.capacity := by
  have hvolume : (deposit (n .volume) volume.mask).toNat = (n .volume).toNat % 0x100 * 0x100000000000000 :=
    toNat_deposit _ .volume
  have hboundary : (deposit (n .boundary) boundary.mask).toNat = (n .boundary).toNat % 0x100 * 0x1000000000000 :=
    toNat_deposit _ .boundary
  have hlayer : (deposit (n .layer) layer.mask).toNat = (n .layer).toNat % 0x1000 * 0x1000000000 :=
    toNat_deposit _ .layer
  have happroach : (deposit (n .approach) approach.mask).toNat = (n .approach).toNat % 0x100 * 0x10000000 :=
    toNat_deposit _ .approach
  have hsensitive : (deposit (n .sensitive) sensitive.mask).toNat = (n .sensitive).toNat % 0x10000000 * 1 :=
    toNat_deposit _ .sensitive
  rw [ofNumbers, pack, UInt64.toNat_or, UInt64.toNat_or, UInt64.toNat_or, UInt64.toNat_or, hvolume, hboundary, hlayer,
    happroach, hsensitive]
  -- Each step joins the sum of the fields above with the next lower one.
  rw [or_eq_add .volume (a := _ * _), or_eq_add .boundary (a := _ + _), or_eq_add .layer (a := _ + _),
    or_eq_add .approach (a := _ + _), Nat.mul_one]
  · rfl
  all_goals
    rw [unit]
    omega

/-- Each field of a packed address has its number, reduced to the capacity of the field. -/
theorem toNat_get_ofNumbers (n : GeometryField → UInt64) (f : GeometryField) :
    ((ofNumbers n).get f).toNat = (n f).toNat % f.capacity := by
  rw [toNat_get, toNat_value_ofNumbers, wordOfDigits]
  cases f <;> simp only [capacity, unit] <;> omega

/-- A packed number is kept as it is exactly if its field can hold it. -/
theorem get_ofNumbers_eq_iff (n : GeometryField → UInt64) (f : GeometryField) :
    (ofNumbers n).get f = n f ↔ n f ≤ f.maxValue := by
  rw [← UInt64.toNat_inj, toNat_get_ofNumbers, UInt64.le_iff_toNat_le, ← Nat.lt_add_one_iff, toNat_maxValue]
  exact Nat.mod_eq_iff_lt (Nat.ne_of_gt f.capacity_pos)

/-- Numbers are packed into the same address exactly if they agree on what their fields can hold. -/
theorem ofNumbers_eq_iff {n n' : GeometryField → UInt64} :
    ofNumbers n = ofNumbers n' ↔ ∀ f, (n f).toNat % f.capacity = (n' f).toNat % f.capacity := by
  constructor
  · intro h f
    rw [← toNat_get_ofNumbers, ← toNat_get_ofNumbers, h]
  · intro h
    refine ext_get fun f => UInt64.toNat_inj.1 ?_
    rw [toNat_get_ofNumbers, toNat_get_ofNumbers, h f]

/-! ## Replacing a field -/

/-- Different fields have no bit in common. -/
theorem mask_and_mask {f g : GeometryField} (h : g ≠ f) : f.mask &&& g.mask = 0 ∧ ~~~f.mask &&& g.mask = g.mask := by
  cases f <;> cases g <;> first | exact absurd rfl h | decide

/-- The address zero has zero in every field. -/
theorem get_zero (f : GeometryField) : get ⟨0⟩ f = 0 := by
  rw [get, extract, UInt64.zero_and, UInt64.zero_shiftRight]

/-- Replacing a field leaves the others as they are. -/
theorem get_set_of_ne (x : GeometryId) {f g : GeometryField} (h : g ≠ f) (v : UInt64) : (x.set f v).get g = x.get g := by
  obtain ⟨hdisjoint, hkept⟩ := mask_and_mask h
  have hold : extract (x.value &&& ~~~f.mask) g.mask = x.get g := by
    rw [extract, UInt64.and_assoc, hkept]
    rfl
  rw [set, get, extract_or, hold, extract_deposit_of_disjoint v hdisjoint, UInt64.or_zero]

/-- A replaced field has the new number, reduced to its capacity. -/
theorem toNat_get_set_self (x : GeometryId) (f : GeometryField) (v : UInt64) :
    ((x.set f v).get f).toNat = v.toNat % f.capacity := by
  have hcleared : extract (x.value &&& ~~~f.mask) f.mask = 0 := by
    have hnot : ~~~f.mask &&& f.mask = 0 := by cases f <;> decide
    rw [extract, UInt64.and_assoc, hnot, UInt64.and_zero, UInt64.zero_shiftRight]
  rw [set, get, extract_or, hcleared, UInt64.zero_or, toNat_extract, toNat_deposit, Nat.mul_div_cancel _ f.unit_pos,
    Nat.mod_mod]

theorem get_set_self (x : GeometryId) (f : GeometryField) (v : UInt64) : (x.set f v).get f = v % .ofNat f.capacity := by
  rw [← UInt64.toNat_inj, toNat_get_set_self, UInt64.toNat_mod, f.toNat_ofNat_capacity]

end GeometryId

end DetectorReadout
