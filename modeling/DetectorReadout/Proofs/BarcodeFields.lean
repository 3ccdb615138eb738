import DetectorReadout.Barcode
import DetectorReadout.Proofs.MixedRadix
import DetectorReadout.Proofs.WordFields

/-!
# Barcodes under any layout

The masks of a layout are free. If no two of them share a bit, every part of a history is read back from its barcode, cut to the
room under its mask (`BarcodeLayout.part_decode_encode`). The other way round nothing is asked of the masks: packing what was read
from a barcode restores its bits under any of them (`BarcodeLayout.encode_decode`), since masks that overlap put the same bits in
the same places. Under the default masks the parts are the digits of the barcode, so barcodes are ordered by their vertices first
(`Barcode.lt_iff_parts_lt`).
-/

namespace DetectorReadout

/-! ## Parts and masks -/

/-- A part of a particle history. -/
inductive HistoryPart where
  /-- Production vertex. -/
  | vertex
  /-- Primary particle at that vertex. -/
  | primary
  /-- Generation. -/
  | generation
  /-- Secondary particle within the generation. -/
  | secondary
  /-- Process that made the particle. -/
  | process
deriving DecidableEq

namespace HistoryPart

/-- All parts, the vertex first. -/
def all : List HistoryPart := [vertex, primary, generation, secondary, process]

theorem exists_iff {motive : HistoryPart → Prop} : (∃ p, motive p) ↔
    motive vertex ∨ motive primary ∨ motive generation ∨ motive secondary ∨ motive process := by
  constructor
  · rintro ⟨p, hp⟩
    cases p <;> simp only [hp, true_or, or_true]
  · rintro (h | h | h | h | h) <;> exact ⟨_, h⟩

end HistoryPart

/-- The number of a part. -/
def History.part (h : History) : HistoryPart → UInt64
  | .vertex => h.vertex
  | .primary => h.primary
  | .generation => h.generation
  | .secondary => h.secondary
  | .process => h.process

/-- The numbers of all parts, that of the vertex first. -/
def History.parts (h : History) : List UInt64 := HistoryPart.all.map h.part

namespace BarcodeLayout

variable (l : BarcodeLayout)

/-- The mask of a part. -/
def mask : HistoryPart → UInt64
  | .vertex => l.vertexMask
  | .primary => l.primaryMask
  | .generation => l.generationMask
  | .secondary => l.secondaryMask
  | .process => l.processMask

/-- The bits under any of the masks. -/
def used : UInt64 := l.vertexMask ||| l.primaryMask ||| l.generationMask ||| l.secondaryMask ||| l.processMask

/-- No two masks share a bit. -/
def Disjoint : Prop := ∀ p q, p ≠ q → l.mask p &&& l.mask q = 0

theorem testBit_used (i : Nat) : l.used.toNat.testBit i = true ↔ ∃ p, (l.mask p).toNat.testBit i = true := by
  simp only [used, UInt64.toNat_or, Nat.testBit_or, Bool.or_eq_true, HistoryPart.exists_iff, or_assoc]
  rfl

theorem part_decode (b : Barcode) (p : HistoryPart) : (l.decode b).part p = extract b (l.mask p) := by
  cases p <;> rfl

/-- A barcode has the bits of all deposited parts. -/
theorem testBit_encode (h : History) (i : Nat) :
    (l.encode h).toNat.testBit i = true ↔ ∃ p, (deposit (h.part p) (l.mask p)).toNat.testBit i = true := by
  simp only [encode, UInt64.toNat_or, Nat.testBit_or, Bool.or_eq_true, HistoryPart.exists_iff, or_assoc]
  rfl

/-! ## There and back -/

/-- Packing the parts that were read from a barcode restores the bits under the masks. -/
theorem encode_decode (b : Barcode) : l.encode (l.decode b) = b &&& l.used := by
  apply UInt64.toNat_inj.1
  apply Nat.eq_of_testBit_eq
  intro i
  rw [Bool.eq_iff_iff]
  have hpart (p : HistoryPart) : deposit ((l.decode b).part p) (l.mask p) = b &&& l.mask p := by
    rw [part_decode, deposit_extract]
  simp only [testBit_encode, hpart, UInt64.toNat_and, Nat.testBit_and, Bool.and_eq_true, testBit_used, exists_and_left]

variable {l}

/-- Of disjoint masks only one has a given bit. -/
theorem Disjoint.eq_of_testBit (hl : l.Disjoint) {p q : HistoryPart} {i : Nat} (hp : (l.mask p).toNat.testBit i = true)
    (hq : (l.mask q).toNat.testBit i = true) : p = q := by
  by_contra hne
  have hboth : (l.mask p &&& l.mask q).toNat.testBit i = true := by
    rw [UInt64.toNat_and, Nat.testBit_and, hp, hq, Bool.and_self]
  rw [hl p q hne, UInt64.toNat_zero, Nat.zero_testBit] at hboth
  exact Bool.false_ne_true hboth

/-- Under disjoint masks, the bits under one of them come from its part alone. -/
theorem extract_encode (hl : l.Disjoint) (h : History) (p : HistoryPart) :
    extract (l.encode h) (l.mask p) = extract (deposit (h.part p) (l.mask p)) (l.mask p) := by
  apply UInt64.toNat_inj.1
  apply Nat.eq_of_testBit_eq
  intro i
  rw [testBit_extract, testBit_extract]
  generalize (lowestBit (l.mask p)).toNat % 64 + i = j
  cases hmask : (l.mask p).toNat.testBit j with
  | false => simp
  | true =>
    rw [Bool.and_true, Bool.and_true, Bool.eq_iff_iff, testBit_encode]
    constructor
    · -- The part that has the bit has it under its mask, so this is the mask of the part in question.
      rintro ⟨q, hq⟩
      have hunder := hq
      rw [testBit_deposit, Bool.and_eq_true] at hunder
      rwa [hl.eq_of_testBit hmask hunder.1]
    · intro hp
      exact ⟨p, hp⟩

/-- Under disjoint masks, a part is read back from the barcode, without the bits that have no room under its mask. -/
theorem part_decode_encode (hl : l.Disjoint) (h : History) (p : HistoryPart) :
    (l.decode (l.encode h)).part p = h.part p &&& (l.mask p >>> lowestBit (l.mask p)) := by
  rw [part_decode, extract_encode hl, extract_deposit]

end BarcodeLayout

/-! ## The default layout -/

namespace HistoryPart

/-- The place of the lowest bit of the part in the default layout. -/
def shift : HistoryPart → Nat
  | vertex => 52
  | primary => 36
  | generation => 24
  | secondary => 12
  | process => 0

/-- The number of bits of the part in the default layout. -/
def width : HistoryPart → Nat
  | vertex => 12
  | primary => 16
  | generation => 12
  | secondary => 12
  | process => 12

theorem mask_default (p : HistoryPart) : (BarcodeLayout.mask {} p).toNat = ((1 <<< p.width) - 1) <<< p.shift := by
  cases p <;> decide

theorem lowestBit_default (p : HistoryPart) : (lowestBit (BarcodeLayout.mask {} p)).toNat % 64 = p.shift := by
  cases p <;> decide +kernel

end HistoryPart

/-- In the default layout the parts are the digits of the barcode. -/
theorem Barcode.map_toNat_parts (b : Barcode) : (BarcodeLayout.decode {} b).parts.map UInt64.toNat =
    MixedRadix.digits (HistoryPart.all.map fun p => 1 <<< p.width) b.toNat := by
  have hpart (p : HistoryPart) :
      ((BarcodeLayout.decode {} b).part p).toNat = b.toNat / (1 <<< p.shift) % (1 <<< p.width) := by
    rw [BarcodeLayout.part_decode, toNat_extract_run b p.mask_default p.lowestBit_default]
  simp only [History.parts, HistoryPart.all, List.map_cons, List.map_nil, hpart]
  rfl

theorem Barcode.lt_iff_parts_lt (b c : Barcode) :
    b < c ↔ (BarcodeLayout.decode {} b).parts < (BarcodeLayout.decode {} c).parts :=
  MixedRadix.lt_iff_fields_lt (fun b => (BarcodeLayout.decode {} b).parts) (by decide) Barcode.map_toNat_parts b c

/-- Barcodes make the round trip under every layout that can be used. If the masks share no bit, each part of a history is read
back from its barcode as far as its mask has room for it, and as zero if its mask is empty. Whatever the masks are, packing what
was read from a barcode restores its bits under the masks, so all of it if every bit is under a mask. Under the default masks
barcodes are ordered by vertex, primary particle, generation, secondary particle and process, in this order. -/
theorem BarcodeLayout.round_trips :
    (∀ (l : BarcodeLayout) (h : History), l.Disjoint → ∀ p, (l.decode (l.encode h)).part p =
      if l.mask p = 0 then 0 else h.part p &&& (l.mask p >>> lowestBit (l.mask p))) ∧
    (∀ (l : BarcodeLayout) b, l.encode (l.decode b) = b &&& l.used) ∧
    (∀ (l : BarcodeLayout) b, l.used = 0xffffffffffffffff → l.encode (l.decode b) = b) ∧
    ∀ b c : Barcode, b < c ↔ (decode {} b).parts < (decode {} c).parts := by
  refine ⟨?_, encode_decode, ?_, Barcode.lt_iff_parts_lt⟩
  · intro l h hl p
    split
    · rename_i hempty
      rw [part_decode, hempty, (deposit_extract_empty _).2]
    · exact part_decode_encode hl h p
  · intro l b hall
    rw [encode_decode, hall]
    exact UInt64.and_neg_one

/-- Masks with gaps, an empty one, and one with the highest bit only; and the default masks, which cover all bits. -/
theorem BarcodeLayout.round_trips_gaps :
    let l : BarcodeLayout := ⟨0xf0f0, 0, 0x0f00, 0x8000000000000000, 0x1⟩
    l.Disjoint ∧ (∀ p, (l.decode (l.encode ⟨0xabc, 7, 0x12, 3, 1⟩)).part p = History.part ⟨0xa0c, 0, 0x2, 1, 1⟩ p) ∧
      used {} = 0xffffffffffffffff ∧ encode {} (decode {} 0x123456789abcdef0) = 0x123456789abcdef0 := by
  intro l
  have hl : l.Disjoint := by
    intro p q
    cases p <;> cases q <;> decide
  have hall : used {} = 0xffffffffffffffff := by decide
  refine ⟨hl, fun p => ?_, hall, round_trips.2.2.1 _ _ hall⟩
  rw [round_trips.1 l _ hl p]
  cases p <;> decide +kernel

end DetectorReadout
