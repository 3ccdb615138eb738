import DetectorReadout.Bits

/-!
# Fields under a mask of any shape

A mask may be empty, have gaps, or overlap with others. Bit by bit, depositing a number and extracting it again leaves what the
mask has room for (`extract_deposit`), extracting and depositing again restricts a word to the mask (`deposit_extract`), and what
lies under a disjoint mask does not matter (`extract_deposit_of_disjoint`). Under a mask without gaps, a field is a digit of the
word (`toNat_extract_run`).
-/

namespace DetectorReadout

/-! ## The lowest bit of a mask -/

/-- The mask has the bit, and none below it. -/
def IsLowestBit (mask : UInt64) (k : Nat) : Prop := mask.toNat.testBit k ∧ ∀ i < k, mask.toNat.testBit i = false

instance (mask : UInt64) (k : Nat) : Decidable (IsLowestBit mask k) := inferInstanceAs (Decidable (_ ∧ _))

/-- The lowest bit of a mask that is not empty is one of the word. -/
theorem lowestBit_lt {mask : UInt64} (h : mask ≠ 0) : (lowestBit mask).toNat < 64 := by
  have hne : mask.toBitVec ≠ 0#64 := fun hzero => h (UInt64.toBitVec_inj.1 hzero)
  exact BitVec.lt_def.1 (BitVec.ctz_lt_iff_ne_zero.2 hne)

theorem testBit_lowestBit {mask : UInt64} (h : mask ≠ 0) : mask.toNat.testBit (lowestBit mask).toNat = true := by
  have hne : mask.toBitVec ≠ 0#64 := fun hzero => h (UInt64.toBitVec_inj.1 hzero)
  exact (BitVec.testBit_toNat _).trans (BitVec.getLsbD_true_ctz_of_ne_zero hne)

theorem testBit_of_lt_lowestBit {mask : UInt64} {i : Nat} (h : i < (lowestBit mask).toNat) : mask.toNat.testBit i = false :=
  (BitVec.testBit_toNat _).trans (BitVec.getLsbD_false_of_lt_ctz h)

theorem lowestBit_le_of_testBit {mask : UInt64} {i : Nat} (h : mask.toNat.testBit i = true) : (lowestBit mask).toNat ≤ i :=
  Nat.le_of_not_lt fun hlt => Bool.false_ne_true ((testBit_of_lt_lowestBit hlt).symm.trans h)

/-- Every mask that is not empty has a lowest bit, and this is what `lowestBit` finds. -/
theorem isLowestBit_iff {mask : UInt64} {k : Nat} : IsLowestBit mask k ↔ mask ≠ 0 ∧ (lowestBit mask).toNat = k := by
  constructor
  · rintro ⟨hbit, hbelow⟩
    have hne : mask ≠ 0 := by
      rintro rfl
      simp at hbit
    refine ⟨hne, Nat.le_antisymm (lowestBit_le_of_testBit hbit) (Nat.le_of_not_lt fun hlt => ?_)⟩
    exact Bool.false_ne_true ((hbelow _ hlt).symm.trans (testBit_lowestBit hne))
  · rintro ⟨hne, rfl⟩
    exact ⟨testBit_lowestBit hne, fun _ => testBit_of_lt_lowestBit⟩

/-! ## Bits of a field -/

variable (v w mask : UInt64)

/-- A field is moved by the place of its lowest bit, and not at all if it is empty. -/
theorem testBit_extract (i : Nat) : (extract w mask).toNat.testBit i =
    (w.toNat.testBit ((lowestBit mask).toNat % 64 + i) && mask.toNat.testBit ((lowestBit mask).toNat % 64 + i)) := by
  rw [extract, UInt64.toNat_shiftRight, Nat.testBit_shiftRight, UInt64.toNat_and, Nat.testBit_and]

variable {mask}

/-- The bits of a mask are bits of the word, and not below the place of the lowest one. -/
theorem bounds_of_testBit {i : Nat} (h : mask.toNat.testBit i = true) : (lowestBit mask).toNat % 64 ≤ i ∧ i < 64 := by
  refine ⟨Nat.le_trans (Nat.mod_le _ _) (lowestBit_le_of_testBit h), Nat.lt_of_not_le fun hle => ?_⟩
  have hword : mask.toNat < 2 ^ i := Nat.lt_of_lt_of_le mask.toNat_lt (Nat.pow_le_pow_right (by decide) hle)
  exact Bool.false_ne_true ((Nat.testBit_lt_two_pow hword).symm.trans h)

variable (mask)

theorem testBit_deposit (i : Nat) : (deposit v mask).toNat.testBit i =
    (mask.toNat.testBit i && v.toNat.testBit (i - (lowestBit mask).toNat % 64)) := by
  rw [deposit, UInt64.toNat_and, Nat.testBit_and, UInt64.toNat_shiftLeft, Nat.testBit_mod_two_pow, Nat.testBit_shiftLeft,
    Bool.and_comm]
  cases h : mask.toNat.testBit i with
  | false => rfl
  | true =>
    obtain ⟨hplace, hword⟩ := bounds_of_testBit h
    rw [decide_eq_true hplace, decide_eq_true hword, Bool.true_and, Bool.true_and]

/-! ## Depositing and extracting -/

/-- What is deposited and extracted again loses the bits that do not fit under the mask. -/
theorem extract_deposit : extract (deposit v mask) mask = v &&& (mask >>> lowestBit mask) := by
  apply UInt64.toNat_inj.1
  apply Nat.eq_of_testBit_eq
  intro i
  rw [testBit_extract, testBit_deposit, Nat.add_sub_cancel_left, UInt64.toNat_and, Nat.testBit_and, UInt64.toNat_shiftRight,
    Nat.testBit_shiftRight, Bool.and_right_comm, Bool.and_self, Bool.and_comm]

/-- What is extracted and deposited again is the part of the word under the mask. -/
theorem deposit_extract : deposit (extract w mask) mask = w &&& mask := by
  apply UInt64.toNat_inj.1
  apply Nat.eq_of_testBit_eq
  intro i
  rw [testBit_deposit, testBit_extract, UInt64.toNat_and, Nat.testBit_and]
  cases h : mask.toNat.testBit i with
  | false => simp
  | true =>
    -- The bit comes back to its place, since the place of a field is not above any of its bits.
    have hplace := (bounds_of_testBit h).1
    rw [Nat.add_sub_cancel' hplace, h, Bool.true_and]

theorem extract_or : extract (v ||| w) mask = extract v mask ||| extract w mask := by
  have hand : (v ||| w) &&& mask = v &&& mask ||| w &&& mask := UInt64.toBitVec_inj.1 BitVec.and_or_distrib_right
  rw [extract, hand, UInt64.shiftRight_or]
  rfl

variable {mask}

/-- Nothing of what is deposited under a mask is found under one that is disjoint from it. -/
theorem extract_deposit_of_disjoint {mask' : UInt64} (h : mask' &&& mask = 0) : extract (deposit v mask') mask = 0 := by
  rw [extract, deposit, UInt64.and_assoc, h, UInt64.and_zero, UInt64.zero_shiftRight]

/-- Under a mask without gaps, the bits of the word are a digit of it. -/
theorem toNat_extract_run {shift width : Nat} (hmask : mask.toNat = ((1 <<< width) - 1) <<< shift)
    (hshift : (lowestBit mask).toNat % 64 = shift) :
    (extract w mask).toNat = w.toNat / (1 <<< shift) % (1 <<< width) := by
  rw [extract, UInt64.toNat_shiftRight, hshift, UInt64.toNat_and, Nat.shiftRight_and_distrib, hmask, Nat.shiftLeft_shiftRight,
    Nat.one_shiftLeft, Nat.one_shiftLeft, Nat.and_two_pow_sub_one_eq_mod, Nat.shiftRight_eq_div_pow]

end DetectorReadout
