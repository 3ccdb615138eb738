/-!
# Fields of a 64-bit word

A field of a packed word is named by its mask. `deposit` moves a number to the place of the mask and `extract` brings it
back; bits that do not fit under the mask are dropped. An empty mask names a field that holds nothing: both operations
give zero there (`deposit_extract_empty`).
-/

namespace DetectorReadout

/-- The index of the lowest bit of the mask, 64 for the empty mask. -/
def lowestBit (mask : UInt64) : UInt64 :=
  UInt64.ofBitVec mask.toBitVec.ctz

/-- The number moved to the place of the mask, with the bits outside the mask dropped. -/
def deposit (value mask : UInt64) : UInt64 :=
  (value <<< lowestBit mask) &&& mask

/-- The bits of the word under the mask, moved down to bit zero. -/
def extract (word mask : UInt64) : UInt64 :=
  (word &&& mask) >>> lowestBit mask

/-- An empty mask needs no case of its own: whatever the shift, nothing is deposited under it and zero is extracted. -/
theorem deposit_extract_empty (value : UInt64) : deposit value 0 = 0 ∧ extract value 0 = 0 := by
  rw [deposit, extract, UInt64.and_zero, UInt64.and_zero, UInt64.zero_shiftRight]
  exact ⟨rfl, rfl⟩

end DetectorReadout
