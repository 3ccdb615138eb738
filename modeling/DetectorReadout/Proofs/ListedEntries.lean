import Mathlib.Data.List.Forall2
import DetectorReadout.Json.Values
import DetectorReadout.Proofs.History
import DetectorReadout.Proofs.RangeLookup

/-!
# Multimaps read from a list of entries

A multimap is written as the list of its entries, and it is read from such a list. Reading takes the entries as they are
listed (`ofJson?_eq_some_iff`). So what was written is read back (`ofJson?_toJson`), but a list that comes from elsewhere is not
put in order: what lookups and insertions promise of a map (`Reliable`) holds of the map that is read exactly when the listed
keys do not decrease (`reliable_iff_listed_in_order`), and `unordered_text_is_accepted` is a text with which it fails.
-/

namespace DetectorReadout

universe u v

/-! ## Reading lists -/

/-- A list is read item by item. -/
theorem Json.mapM_eq_some_iff {α : Type u} {β : Type v} {read? : α → Option β} {items : List α} {l : List β} :
    items.mapM read? = some l ↔ List.Forall₂ (fun item b => read? item = some b) items l := by
  induction items generalizing l with
  | nil =>
    rw [List.mapM_nil, List.forall₂_nil_left_iff]
    exact ⟨fun h => (Option.some.inj h).symm, fun h => congrArg some h.symm⟩
  | cons item items ih =>
    rw [List.mapM_cons, List.forall₂_cons_left_iff]
    constructor
    · intro h
      obtain ⟨b, hb, h⟩ := Option.bind_eq_some_iff.1 h
      obtain ⟨rest, hrest, h⟩ := Option.bind_eq_some_iff.1 h
      exact ⟨b, rest, hb, ih.1 hrest, (Option.some.inj h).symm⟩
    · rintro ⟨b, rest, hb, hrest, rfl⟩
      rw [hb, ih.2 hrest]
      rfl

/-- A written word is read back. -/
theorem Json.word?_ofWord (w : UInt64) : (Json.ofWord w).word? = some w := by
  have hrange : (0 : Int) ≤ w.toNat ∧ (w.toNat : Int) ≤ 0xffffffffffffffff := by
    have := w.toNat_lt
    omega
  simp [ofWord, ofInt, word?, intBetween?, hrange]

/-- A written address is read back. -/
theorem GeometryId.ofJson?_toJson (x : GeometryId) : ofJson? x.toJson = some x := by
  rw [ofJson?, toJson, Json.word?_ofWord]
  rfl

namespace SortedMultimap

variable {κ ν : Type} {key? : Json → Option κ} {value? : Json → Option ν} {toKey : κ → Json} {toValue : ν → Json}

/-- The item of a list stands for an entry: it is a pair of a key and a value. -/
def IsEntry (key? : Json → Option κ) (value? : Json → Option ν) (item : Json) (e : κ × ν) : Prop :=
  ∃ k v, item = .array [k, v] ∧ key? k = some e.1 ∧ value? v = some e.2

/-- The map of a list holds the listed entries in the listed order, and there is one as soon as every item is an entry. -/
theorem ofJson?_eq_some_iff {j : Json} {m : SortedMultimap κ ν} :
    ofJson? key? value? j = some m ↔
      ∃ items, j = .array items ∧ List.Forall₂ (IsEntry key? value?) items m.toList := by
  unfold ofJson?
  extract_lets entry?
  have hentry : (fun item e => entry? item = some e) = IsEntry key? value? := by
    funext item e
    refine propext ⟨fun h => ?_, fun ⟨k, v, hitem, hk, hv⟩ => ?_⟩
    · unfold entry? at h
      split at h
      · obtain ⟨a, ha, h⟩ := Option.bind_eq_some_iff.1 h
        obtain ⟨b, hb, h⟩ := Option.bind_eq_some_iff.1 h
        cases h
        exact ⟨_, _, rfl, ha, hb⟩
      · cases h
    · subst hitem
      show (key? k).bind (fun a => (value? v).bind fun b => some (a, b)) = some e
      rw [hk, hv]
      rfl
  rw [← hentry]
  constructor
  · intro h
    obtain ⟨l, hl, h⟩ := Option.bind_eq_some_iff.1 h
    cases h
    cases j with
    | array items => exact ⟨items, rfl, Json.mapM_eq_some_iff.1 hl⟩
    | _ => cases hl
  · rintro ⟨items, rfl, hitems⟩
    have hl : (Json.array items).list? entry? = some m.toList := Json.mapM_eq_some_iff.2 hitems
    rw [hl]
    rfl

/-- A written map is read back, whatever the order of its entries. -/
theorem ofJson?_toJson (hkey : ∀ k, key? (toKey k) = some k) (hvalue : ∀ v, value? (toValue v) = some v)
    (m : SortedMultimap κ ν) : ofJson? key? value? (m.toJson toKey toValue) = some m := by
  refine ofJson?_eq_some_iff.2 ⟨_, rfl, ?_⟩
  rw [List.forall₂_map_left_iff, List.forall₂_same]
  exact fun e _ => ⟨_, _, rfl, hkey e.1, hvalue e.2⟩

variable [LE κ] [LT κ] [DecidableLE κ] [DecidableLT κ] [DecidableEq κ]

/-- What lookups and insertions promise of a map. -/
structure Reliable (m : SortedMultimap κ ν) : Prop where
  /-- The map is in order. -/
  isSorted : m.isSorted = true
  /-- The run of a key holds every entry with this key. -/
  equalRange : ∀ key, m.equalRange key = m.toList.filter fun e => e.1 = key
  /-- An insertion keeps the map in order. -/
  insert : ∀ key value, (m.insert key value).1.isSorted = true
  /-- An entry may be appended exactly if no key is larger than its own. -/
  append_iff : ∀ key value, (∃ m', m.insertSortedEnd key value = .ok m') ↔ ¬∃ e ∈ m.toList, key < e.1

variable [Std.IsLinearOrder κ] [Std.LawfulOrderLT κ]

/-- A map in order keeps all the promises. -/
theorem reliable_iff_ordered {m : SortedMultimap κ ν} : m.Reliable ↔ m.Ordered := by
  refine ⟨fun h => isSorted_iff_ordered.1 h.isSorted, fun h => ?_⟩
  exact
    { isSorted := isSorted_iff_ordered.2 h
      equalRange := equalRange_eq_filter h
      insert := fun key value => isSorted_iff_ordered.2 (h.insert key value)
      append_iff := fun key value => by
        rw [← insertSortedEnd_error_iff h key value]
        cases m.insertSortedEnd key value with
        | error refused => simp
        | ok m' => simp }

/-- What is read is a list of entries, and every list of entries is read as it stands, so the map keeps the promises exactly
if the listed keys do not decrease. A map that came about by edits, once written, is read back. -/
theorem reliable_iff_listed_in_order (hkey : ∀ k, key? (toKey k) = some k) (hvalue : ∀ v, value? (toValue v) = some v) :
    (∀ j (m : SortedMultimap κ ν), ofJson? key? value? j = some m →
      ∃ items, j = .array items ∧ List.Forall₂ (IsEntry key? value?) items m.toList) ∧
    (∀ items l, List.Forall₂ (IsEntry key? value?) items l →
      ∃ m, ofJson? key? value? (.array items) = some m ∧ m.toList = l ∧
        (m.Reliable ↔ l.Pairwise fun a b => a.1 ≤ b.1)) ∧
    ∀ edits, ofJson? key? value? ((afterEdits edits).toJson toKey toValue) = some (afterEdits edits) := by
  refine ⟨fun _ _ => ofJson?_eq_some_iff.1, fun items l hitems => ?_, fun _ => ofJson?_toJson hkey hvalue _⟩
  exact ⟨⟨l.toArray⟩, ofJson?_eq_some_iff.2 ⟨items, rfl, hitems⟩, rfl, reliable_iff_ordered⟩

/-- Two addresses listed in the wrong order are read, and the map that is read does not keep the promises. -/
theorem reliable_iff_listed_in_order_addresses :
    (∀ x : GeometryId, GeometryId.ofJson? x.toJson = some x) ∧ (∀ w, (Json.ofWord w).word? = some w) ∧
      ∃ m, ofJson? GeometryId.ofJson? Json.word?
          (.array [.array [.ofInt 2, .ofInt 7], .array [.ofInt 1, .ofInt 8]]) = some m ∧
        m.toList = [(⟨2⟩, 7), (⟨1⟩, 8)] ∧ ¬m.Reliable := by
  refine ⟨GeometryId.ofJson?_toJson, Json.word?_ofWord, ?_⟩
  have hitems : List.Forall₂ (IsEntry GeometryId.ofJson? Json.word?)
      [.array [.ofInt 2, .ofInt 7], .array [.ofInt 1, .ofInt 8]] [(⟨2⟩, 7), (⟨1⟩, 8)] :=
    .cons ⟨.ofInt 2, .ofInt 7, rfl, by decide, by decide⟩
      (.cons ⟨.ofInt 1, .ofInt 8, rfl, by decide, by decide⟩ .nil)
  obtain ⟨m, hread, hlist, hiff⟩ :=
    (reliable_iff_listed_in_order GeometryId.ofJson?_toJson Json.word?_ofWord).2.1 _ _ hitems
  exact ⟨m, hread, hlist, fun h => absurd (hiff.1 h) (by decide)⟩

/-- A text whose keys decrease is accepted. The map that is read is out of order, and an entry may be appended to it although
a larger key is stored. -/
theorem unordered_text_is_accepted :
    ∃ m, Json.decode? (ofJson? Json.word? Json.word?) "[[2,0],[1,0]]" = some m ∧ m.isSorted = false ∧
      (∃ e ∈ m.toList, 1 < e.1) ∧ ∃ m', m.insertSortedEnd 1 0 = .ok m' :=
  ⟨⟨#[(2, 0), (1, 0)]⟩, by decide, by decide, by decide, _, rfl⟩

end SortedMultimap

end DetectorReadout
