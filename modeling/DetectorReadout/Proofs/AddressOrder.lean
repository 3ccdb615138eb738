import DetectorReadout.Proofs.AddressPrefixes
import DetectorReadout.Proofs.MixedRadix

/-!
# The order of addresses

The fields of an address are the digits of its word, with the volume on top, so comparing two addresses as integers compares them
level by level (`GeometryId.lt_iff_fields_lt`). Addresses that have the same upper bits therefore stand together: they reach from
the address with its lower bits cleared to the one with its lower bits set, wherever the border between the upper and the lower
bits is (`GeometryId.agreesFrom_iff_between`). The border need not be one between two fields.
-/

namespace DetectorReadout

namespace GeometryId

/-! ## Level by level -/

/-- The numbers in the fields of an address, from the volume down. -/
def fields (x : GeometryId) : List UInt64 := GeometryField.all.map x.get

/-- The fields are the digits of the word. -/
theorem map_toNat_fields (x : GeometryId) :
    x.fields.map UInt64.toNat = MixedRadix.digits (GeometryField.all.map GeometryField.capacity) x.value.toNat := by
  simp only [fields, GeometryField.all, List.map_cons, List.map_nil, toNat_get]
  rfl

theorem lt_iff_fields_lt (x y : GeometryId) : x < y ↔ x.fields < y.fields :=
  MixedRadix.lt_iff_fields_lt (fun w => fields ⟨w⟩) (by decide) (fun w => map_toNat_fields ⟨w⟩) x.value y.value

/-! ## Bit by bit -/

/-- The addresses have the same bits from the given one upwards. -/
def AgreesFrom (x y : GeometryId) (k : Nat) : Prop := ∀ i ≥ k, x.value.toNat.testBit i = y.value.toNat.testBit i

/-- The address with all bits below the given one cleared: they are shifted out, and zeros are shifted in. -/
def clearBelow (x : GeometryId) (k : Nat) : GeometryId := ⟨(x.value >>> .ofNat k) <<< .ofNat k⟩

theorem agreesFrom_iff_div {x y : GeometryId} {k : Nat} :
    x.AgreesFrom y k ↔ y.value.toNat / (1 <<< k) = x.value.toNat / (1 <<< k) := by
  rw [Nat.one_shiftLeft]
  constructor
  · intro h
    apply Nat.eq_of_testBit_eq
    intro i
    rw [Nat.testBit_div_two_pow, Nat.testBit_div_two_pow]
    exact (h (i + k) (Nat.le_add_left k i)).symm
  · intro h i hi
    have hbit := congrArg (Nat.testBit · (i - k)) h
    simp only [Nat.testBit_div_two_pow, Nat.sub_add_cancel hi] at hbit
    exact hbit.symm

theorem toNat_clearBelow (x : GeometryId) {k : Nat} (h : k < 64) :
    (x.clearBelow k).value.toNat = x.value.toNat / (1 <<< k) * (1 <<< k) := by
  have hk : (UInt64.ofNat k).toNat % 64 = k := by
    rw [UInt64.toNat_ofNat']
    omega
  have hle : x.value.toNat / 2 ^ k * 2 ^ k < 2 ^ 64 := Nat.lt_of_le_of_lt (Nat.div_mul_le_self _ _) x.value.toNat_lt
  rw [clearBelow, UInt64.toNat_shiftLeft, UInt64.toNat_shiftRight, hk, Nat.shiftRight_eq_div_pow, Nat.shiftLeft_eq,
    Nat.one_shiftLeft, Nat.mod_eq_of_lt hle]

/-- An address has the upper bits of another one exactly if it lies between this one with its lower bits cleared and with its
lower bits set. -/
theorem agreesFrom_iff_between {x y : GeometryId} {mask : UInt64} {k : Nat} (h : IsLowestBit mask k) :
    x.AgreesFrom y k ↔ x.clearBelow k ≤ y ∧ y ≤ x.lastBelow mask := by
  obtain ⟨hne, rfl⟩ := isLowestBit_iff.1 h
  have hpos : 0 < 1 <<< (lowestBit mask).toNat := by
    rw [Nat.one_shiftLeft]
    exact Nat.two_pow_pos _
  have hle (u v : GeometryId) : u ≤ v ↔ u.value.toNat ≤ v.value.toNat := UInt64.le_iff_toNat_le
  -- The numbers with a given quotient are those from its multiple of the divisor up to the next multiple.
  rw [agreesFrom_iff_div, Nat.div_eq_iff hpos, hle, hle, toNat_clearBelow x (lowestBit_lt hne), toNat_lastBelow x hne,
    Nat.add_sub_assoc hpos]

/-- Bits that are set already are not set again. -/
theorem lastBelow_lastBelow (x : GeometryId) (mask : UInt64) : (x.lastBelow mask).lastBelow mask = x.lastBelow mask := by
  unfold lastBelow
  split
  · rfl
  · rw [UInt64.or_assoc, UInt64.or_self]

/-- The last address below a later place is not earlier. -/
theorem lastBelow_mono {x y : GeometryId} (h : x ≤ y) (mask : UInt64) : x.lastBelow mask ≤ y.lastBelow mask := by
  by_cases hmask : mask = 0
  · rwa [lastBelow, lastBelow, if_pos hmask, if_pos hmask]
  · have hdiv := Nat.div_le_div_right (c := 1 <<< (lowestBit mask).toNat) (UInt64.le_iff_toNat_le.1 h)
    apply UInt64.le_iff_toNat_le.2
    rw [toNat_lastBelow x hmask, toNat_lastBelow y hmask]
    exact Nat.add_le_add_right (Nat.mul_le_mul_right _ hdiv) _

/-- The order of addresses as integers is the order of the hierarchy: the first level on which two addresses differ decides. So a
subtree is a range. For every mask that is not empty, an address has all bits of another one from the lowest bit of the mask
upwards exactly if it lies between the other one with the bits below cleared and the last address below it. Taking the last
address below twice is the same as once, and keeps the order. -/
theorem order_is_hierarchical :
    (∀ x y : GeometryId, x < y ↔ x.fields < y.fields) ∧
    (∀ (x y : GeometryId) mask k, IsLowestBit mask k → (x.AgreesFrom y k ↔ x.clearBelow k ≤ y ∧ y ≤ x.lastBelow mask)) ∧
    (∀ (x : GeometryId) mask, (x.lastBelow mask).lastBelow mask = x.lastBelow mask) ∧
    ∀ (x y : GeometryId) mask, x ≤ y → x.lastBelow mask ≤ y.lastBelow mask := by
  refine ⟨lt_iff_fields_lt, ?_, lastBelow_lastBelow, ?_⟩
  · intro x y mask k h
    exact agreesFrom_iff_between h
  · intro x y mask h
    exact lastBelow_mono h mask

/-- A mask with gaps, whose lowest bit is in the middle of a field, and the mask that has the highest bit only. -/
theorem order_is_hierarchical_gaps :
    IsLowestBit 0x111100 8 ∧ AgreesFrom ⟨0x101000⟩ ⟨0x101042⟩ 8 ∧ ¬ AgreesFrom ⟨0x101000⟩ ⟨0x101100⟩ 8 ∧
    IsLowestBit 0x8000000000000000 63 ∧ AgreesFrom (ofModule 200 1 5) (ofModule 130 9 2) 63 ∧
    ofModule 130 9 2 ≤ ofModule 200 1 5 ∧
    (ofModule 130 9 2).lastBelow GeometryField.layer.mask ≤ (ofModule 200 1 5).lastBelow GeometryField.layer.mask := by
  have hgaps : IsLowestBit 0x111100 8 := by decide +kernel
  have htop : IsLowestBit 0x8000000000000000 63 := by decide +kernel
  have hle : ofModule 130 9 2 ≤ ofModule 200 1 5 := by decide +kernel
  have hwithin := (order_is_hierarchical.2.1 ⟨0x101000⟩ ⟨0x101042⟩ _ _ hgaps).2 (by decide +kernel)
  have hbeyond := mt (order_is_hierarchical.2.1 ⟨0x101000⟩ ⟨0x101100⟩ _ _ hgaps).1 (by decide +kernel)
  have hupper := (order_is_hierarchical.2.1 (ofModule 200 1 5) (ofModule 130 9 2) _ _ htop).2 (by decide +kernel)
  exact ⟨hgaps, hwithin, hbeyond, htop, hupper, hle, order_is_hierarchical.2.2.2 _ _ _ hle⟩

end GeometryId

end DetectorReadout
