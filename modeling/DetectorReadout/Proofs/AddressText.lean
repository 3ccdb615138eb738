import Mathlib.Data.List.Basic
import DetectorReadout.Proofs.AddressPrefixes
import DetectorReadout.Proofs.FieldUpdates

/-!
# Reading the text of an address

The text of an address is read from the left: the volume, then the parts of the other levels as far as they are there. Each part
has a sign of its own in front, and a number ends where the next sign begins, so after every part the rest of the text is that of
the levels below (`GeometryId.readPart_parts`). Only zeros are left out, and they are what an absent part means, so the text is
read back as the address it was written for (`GeometryId.ofText?_text`).
-/

namespace DetectorReadout

namespace GeometryId

/-! ## The reader -/

/-- What introduces the number of a level. -/
def sign : GeometryField → String
  | .volume => "vol="
  | .boundary => "|bnd="
  | .layer => "|lay="
  | .approach => "|apr="
  | .sensitive => "|sen="

/-- Reads the sign of a level and a number that its field can hold, and leaves the text behind it. -/
def readPart? (f : GeometryField) (text : List Char) : Option (UInt64 × List Char) :=
  match text.dropPrefix? (sign f).toList with
  | none => none
  | some rest =>
    let digits := rest.takeWhile Char.isDigit
    let n := Nat.ofDigitChars 10 digits 0
    if digits ≠ [] ∧ n < f.capacity then some (.ofNat n, rest.dropWhile Char.isDigit) else none

/-- Reads the part of a level if it comes next. An absent part means zero. -/
def readPart (f : GeometryField) (text : List Char) : UInt64 × List Char := (readPart? f text).getD (0, text)

/-- Reads an address: the volume, then the other levels from the boundary down, each of which may be absent. -/
def ofText? (text : String) : Option GeometryId := do
  let (volume, rest) ← readPart? .volume text.toList
  let (boundary, rest) := readPart .boundary rest
  let (layer, rest) := readPart .layer rest
  let (approach, rest) := readPart .approach rest
  let (sensitive, rest) := readPart .sensitive rest
  if rest = [] then some (pack volume boundary layer approach sensitive) else none

/-! ## Signs and numbers -/

theorem sign_injective {f g : GeometryField} (h : (sign f).toList = (sign g).toList) : f = g := by
  cases f <;> cases g <;> first | rfl | exact absurd h (by decide)

theorem sign_eq {f : GeometryField} (h : f ≠ .volume) : (sign f).toList = '|' :: (tag f ++ "=").toList := by
  cases f with
  | volume => exact absurd rfl h
  | _ => decide

/-- The sign and the number of a level. -/
def writtenPart (x : GeometryId) (f : GeometryField) : List Char := (sign f).toList ++ Nat.toDigits 10 (x.get f).toNat

/-- What is written is read back, if the text behind it does not go on with a digit. -/
theorem readPart?_writtenPart (x : GeometryId) (f : GeometryField) {rest : List Char}
    (hrest : rest.takeWhile Char.isDigit = []) : readPart? f (x.writtenPart f ++ rest) = some (x.get f, rest) := by
  have hdigits : ∀ c ∈ Nat.toDigits 10 (x.get f).toNat, c.isDigit = true := by
    intro c hc
    exact Nat.isDigit_of_mem_toDigits (by decide) (by decide) hc
  have hdrop : rest.dropWhile Char.isDigit = rest := by
    have hsplit := List.takeWhile_append_dropWhile (p := Char.isDigit) (l := rest)
    rwa [hrest] at hsplit
  have hfits := x.toNat_get_lt f
  rw [readPart?, writtenPart, List.append_assoc, List.dropPrefix?_append_of_beq _ (beq_self_eq_true _)]
  simp only [List.takeWhile_append_of_pos hdigits, List.dropWhile_append_of_pos hdigits, hrest, hdrop, List.append_nil,
    Nat.ofDigitChars_ten_toDigits, UInt64.ofNat_toNat]
  exact if_pos ⟨Nat.toDigits_ne_nil, hfits⟩

/-- A part is not read where its sign does not stand. -/
theorem readPart?_eq_none {f : GeometryField} {text : List Char} (h : ¬ (sign f).toList <+: text) : readPart? f text = none := by
  have hdrop : text.dropPrefix? (sign f).toList = none := by
    rw [Option.eq_none_iff_forall_ne_some]
    intro rest hrest
    obtain ⟨start, rfl, hstart⟩ := List.dropPrefix?_eq_some_iff.1 hrest
    rw [eq_of_beq hstart] at h
    exact h (List.prefix_append _ _)
  rw [readPart?, hdrop]

/-! ## The parts below the volume -/

/-- The part of a level in the text of an address. A zero is left out. -/
def partText (x : GeometryId) (f : GeometryField) : List Char := if x.get f = 0 then [] else x.writtenPart f

variable (x : GeometryId)

/-- Behind a number, the text ends or goes on with the bar of the next part. -/
theorem takeWhile_isDigit_parts {fs : List GeometryField} (h : .volume ∉ fs) :
    (fs.flatMap x.partText).takeWhile Char.isDigit = [] := by
  induction fs with
  | nil => rfl
  | cons f fs ih =>
    obtain ⟨hf, hfs⟩ := not_or.1 (mt List.mem_cons.2 h)
    rw [List.flatMap_cons, partText]
    split
    · exact ih hfs
    · rw [writtenPart, sign_eq (Ne.symm hf)]
      rfl

/-- The sign of a level does not stand where only the parts of other levels follow. -/
theorem not_sign_prefix_parts {f : GeometryField} {fs : List GeometryField} (hf : f ≠ .volume) (h : f ∉ fs)
    (hfs : .volume ∉ fs) : ¬ (sign f).toList <+: fs.flatMap x.partText := by
  have hlength {g : GeometryField} (hg : g ≠ .volume) : (sign g).toList.length = 5 := by
    cases g with
    | volume => exact absurd rfl hg
    | _ => rfl
  induction fs with
  | nil =>
    rw [List.flatMap_nil, List.prefix_nil, sign_eq hf]
    exact List.cons_ne_nil _ _
  | cons g fs ih =>
    obtain ⟨hg, hfs⟩ := not_or.1 (mt List.mem_cons.2 hfs)
    obtain ⟨hne, h⟩ := not_or.1 (mt List.mem_cons.2 h)
    rw [List.flatMap_cons, partText]
    split
    · exact ih h hfs
    · -- Two signs that stand at the same place are as long as each other, so they would be the same sign.
      intro hsign
      have hsign' : (sign g).toList <+: x.writtenPart g ++ fs.flatMap x.partText :=
        (List.prefix_append _ _).trans (List.prefix_append _ _)
      have heq : (sign f).toList.length = (sign g).toList.length := by rw [hlength hf, hlength (Ne.symm hg)]
      exact hne (sign_injective ((List.prefix_of_prefix_length_le hsign hsign' (Nat.le_of_eq heq)).eq_of_length heq))

/-- Of the parts of several levels the first is read, whether it is there or not, and those of the others are left. -/
theorem readPart_parts {f : GeometryField} {fs : List GeometryField} (h : (.volume :: f :: fs).Nodup) :
    readPart f ((f :: fs).flatMap x.partText) = (x.get f, fs.flatMap x.partText) := by
  obtain ⟨hvolume, hlevels⟩ := List.nodup_cons.1 h
  obtain ⟨hf, hfs⟩ := not_or.1 (mt List.mem_cons.2 hvolume)
  rw [List.flatMap_cons, readPart, partText]
  split
  · rename_i hzero
    rw [List.nil_append, readPart?_eq_none (x.not_sign_prefix_parts (Ne.symm hf) (List.nodup_cons.1 hlevels).1 hfs), hzero]
    rfl
  · rw [x.readPart?_writtenPart f (x.takeWhile_isDigit_parts hfs)]
    rfl

/-! ## The whole text -/

theorem intercalate_cons {α : Type} (separator first : List α) (l : List (List α)) :
    separator.intercalate (first :: l) = first ++ l.flatMap (separator ++ ·) := by
  induction l generalizing first with
  | nil => rw [List.intercalate_singleton, List.flatMap_nil, List.append_nil]
  | cons second l ih => rw [List.intercalate_cons_cons, ih, List.flatMap_cons, List.append_assoc, List.append_assoc]

/-- The levels below the volume that are written are those that are not zero. -/
theorem flatMap_written_levels {fs : List GeometryField} (h : .volume ∉ fs) :
    (((fs.filter fun f => f = .volume ∨ x.get f ≠ 0).map fun f => tag f ++ "=" ++ (x.get f).toNat.repr).map
      String.toList).flatMap ("|".toList ++ ·) = fs.flatMap x.partText := by
  induction fs with
  | nil => rfl
  | cons f fs ih =>
    obtain ⟨hf, hfs⟩ := not_or.1 (mt List.mem_cons.2 h)
    rw [List.filter_cons, List.flatMap_cons, ← ih hfs, partText]
    by_cases hzero : x.get f = 0
    · simp [hzero, Ne.symm hf]
    · simp [hzero, Ne.symm hf, writtenPart, sign_eq (Ne.symm hf)]

/-- The text of an address is the part of the volume, then the parts of the levels below. -/
theorem toList_text : x.text.toList =
    x.writtenPart .volume ++ [GeometryField.boundary, .layer, .approach, .sensitive].flatMap x.partText := by
  have hlevels : (GeometryField.all.filter fun f => f = .volume ∨ x.get f ≠ 0) = .volume ::
      [GeometryField.boundary, .layer, .approach, .sensitive].filter fun f => f = .volume ∨ x.get f ≠ 0 :=
    List.filter_cons_of_pos (by simp)
  have hvolume : (tag .volume ++ "=" ++ (x.get .volume).toNat.repr).toList = x.writtenPart .volume := by
    rw [String.toList_append, Nat.toList_repr]
    rfl
  rw [text, String.toList_intercalate, hlevels, List.map_cons, List.map_cons, intercalate_cons, hvolume,
    flatMap_written_levels x (by decide)]

/-- The text of an address is read back as the address. -/
theorem ofText?_text : ofText? x.text = some x := by
  have hpack : pack (x.get .volume) (x.get .boundary) (x.get .layer) (x.get .approach) (x.get .sensitive) = x := ofNumbers_get x
  rw [ofText?, toList_text, readPart?_writtenPart _ _ (x.takeWhile_isDigit_parts (by decide))]
  simp (disch := decide) only [readPart_parts, Option.bind_eq_bind, Option.bind_some, List.flatMap_nil, if_true, hpack]

/-- The text identifies the address. It is read from the left, the volume first and then the parts of the boundary, the layer, the
approach and the sensitive surface as far as they are there, an absent one as zero, and gives the address back. So different
addresses have different texts. -/
theorem text_identifies_address :
    (∀ x : GeometryId, ofText? x.text = some x) ∧ ∀ x y : GeometryId, x.text = y.text ↔ x = y := by
  refine ⟨ofText?_text, ?_⟩
  intro x y
  constructor
  · intro h
    have hread := congrArg ofText? h
    rw [ofText?_text, ofText?_text] at hread
    exact Option.some.inj hread
  · rintro rfl
    rfl

/-- Parts in another order are not the text of an address, and neither is a number that is too large for its field. -/
example : ofText? "vol=1|lay=2|sen=3" = some (ofModule 1 2 3) ∧ ofText? "vol=1|sen=3|lay=2" = none ∧
    ofText? "vol=256" = none := by
  decide +kernel

end GeometryId

end DetectorReadout
