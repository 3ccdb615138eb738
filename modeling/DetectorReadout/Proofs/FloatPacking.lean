import DetectorReadout.Binary64

/-!
# Packing and unpacking binary64 numbers

A binary64 number is packed into a sign, an exponent and a significand, and it is determined by them
(`Binary64.packComponents_fields`). So the infinities are packed in one way (`Binary64.eq_infinity`), and a result that has no minus
sign before it is packed has none afterwards (`Binary64.signOf_unpack_pack`).
-/

namespace DetectorReadout

namespace Binary64

open Float.Model Float.Model.UnpackedFloat

theorem toBitVec_ofBitVec (v : BitVec 1) : (Sign.ofBitVec v).toBitVec = v := by
  revert v
  decide

/-- A packed value consists of its sign, its exponent and its significand. -/
theorem packComponents_fields (b : BitVec Format.binary64.numBits) :
    packComponents .binary64 (.ofBitVec (unpackSign b)) (unpackExponent b) (unpackMantissa b) = b := by
  refine BitVec.eq_of_getLsbD_eq fun i hi => ?_
  -- The fields are slices of the word, so every bit of the word is a bit of one of them.
  show ((Sign.ofBitVec (unpackSign b)).toBitVec ++ (b.extractLsb 62 52).cast rfl ++ (b.extractLsb 51 0).cast rfl).getLsbD i = _
  rw [toBitVec_ofBitVec]
  show ((b.extractLsb 63 63).cast rfl ++ (b.extractLsb 62 52).cast rfl ++ (b.extractLsb 51 0).cast rfl).getLsbD i = _
  simp only [BitVec.getLsbD_append, BitVec.getLsbD_cast, BitVec.getLsbD_extractLsb]
  grind

/-- What a packed value can be: it is infinite if its exponent has only ones and its significand only zeros, and unless it is not a
number it has the sign that it is packed with. -/
theorem unpack_cases (b : BitVec Format.binary64.numBits) :
    (UnpackedFloat.unpack .binary64 b = .infinity (.ofBitVec (unpackSign b)) ∧
        unpackExponent b = -1#11 ∧ unpackMantissa b = 0#52) ∨
      UnpackedFloat.unpack .binary64 b = .notANumber ∨
      UnpackedFloat.unpack .binary64 b = .zero (.ofBitVec (unpackSign b)) ∨
      ∃ m e h, UnpackedFloat.unpack .binary64 b = .finite (.ofBitVec (unpackSign b)) m e h := by
  dsimp only [UnpackedFloat.unpack]
  by_cases he : unpackExponent b = -1#11
  · rw [if_pos he]
    by_cases hm : unpackMantissa b = 0#52
    · exact .inl ⟨if_pos hm, he, hm⟩
    · exact .inr (.inl (if_neg hm))
  · rw [if_neg he]
    by_cases hz : unpackExponent b = 0#11
    · rw [if_pos hz]
      by_cases hm : unpackMantissa b = 0#52
      · exact .inr (.inr (.inl (dif_pos hm)))
      · exact .inr (.inr (.inr ⟨_, _, _, dif_neg hm⟩))
    · exact .inr (.inr (.inr ⟨_, _, _, if_neg hz⟩))

/-- Every infinity is packed in one way. -/
theorem eq_packedInfinity {b : BitVec Format.binary64.numBits} {s : Sign}
    (h : UnpackedFloat.unpack .binary64 b = .infinity s) : b = packedInfinity .binary64 s := by
  have hinf : (UnpackedFloat.unpack .binary64 b).isInf = true := by
    rw [h]
    rfl
  rcases unpack_cases b with ⟨hb, he, hm⟩ | hb | hb | ⟨m, e, hpos, hb⟩
  · obtain rfl : .ofBitVec (unpackSign b) = s := UnpackedFloat.infinity.inj (hb.symm.trans h)
    calc b = packComponents .binary64 (.ofBitVec (unpackSign b)) (unpackExponent b) (unpackMantissa b) :=
          (packComponents_fields b).symm
      _ = packedInfinity .binary64 (.ofBitVec (unpackSign b)) := by
          rw [he, hm]
          rfl
  all_goals
    rw [hb] at hinf
    cases hinf

/-- Positive infinity is the only value that unpacks to it. -/
theorem eq_infinity {x : Float} (h : x.toModel.unpack = .infinity .positive) : x = infinity := by
  obtain ⟨⟨bits, hbits⟩⟩ := x
  have hvalue : bits.toBitVec = infinity.toModel.toBits.toBitVec := eq_packedInfinity h
  obtain rfl := UInt64.toBitVec_inj.1 hvalue
  rfl

/-! ## Signs -/

/-- The sign of a value. What is not a number has no minus sign. -/
def signOf : UnpackedFloat → Sign
  | .notANumber => .positive
  | .infinity s => s
  | .zero s => s
  | .finite s _ _ _ => s

theorem unpackSign_packComponents (s : Sign) (e : BitVec Format.binary64.exponentBits)
    (m : BitVec Format.binary64.mantissaBitsWithoutImplicit) :
    unpackSign (packComponents .binary64 s e m) = s.toBitVec := by
  refine BitVec.eq_of_getLsbD_eq fun i hi => ?_
  obtain rfl : i = 0 := by omega
  show (((s.toBitVec ++ e ++ m).extractLsb 63 63).cast rfl : BitVec 1).getLsbD 0 = _
  rw [BitVec.getLsbD_cast, BitVec.getLsbD_extractLsb, BitVec.getLsbD_append, BitVec.getLsbD_append]
  rfl

/-- Values are packed with their signs. -/
theorem unpackSign_pack (u : UnpackedFloat) : unpackSign (UnpackedFloat.pack .binary64 u) = (signOf u).toBitVec := by
  cases u with
  | notANumber => exact unpackSign_packComponents ..
  | infinity s => exact unpackSign_packComponents ..
  | zero s => exact unpackSign_packComponents ..
  | finite s m e h =>
    dsimp only [UnpackedFloat.pack]
    rw [apply_ite unpackSign, apply_ite unpackSign, packedInfinity, unpackSign_packComponents, unpackSign_packComponents,
      unpackSign_packComponents, ite_self, ite_self]
    rfl

/-- Without a minus sign among the bits there is none on the value. -/
theorem signOf_unpack {b : BitVec Format.binary64.numBits} (h : Sign.ofBitVec (unpackSign b) = .positive) :
    signOf (UnpackedFloat.unpack .binary64 b) = .positive := by
  rcases unpack_cases b with ⟨hb, -, -⟩ | hb | hb | ⟨m, e, hpos, hb⟩
  · exact (congrArg signOf hb).trans h
  · exact congrArg signOf hb
  · exact (congrArg signOf hb).trans h
  · exact (congrArg signOf hb).trans h

/-- Packing sets no minus sign. -/
theorem signOf_unpack_pack {u : UnpackedFloat} (h : signOf u = .positive) :
    signOf (Float.Model.pack u).unpack = .positive := by
  refine signOf_unpack ?_
  show Sign.ofBitVec (unpackSign (UnpackedFloat.pack .binary64 u)) = .positive
  rw [unpackSign_pack, h]
  rfl

end Binary64

end DetectorReadout
