import DetectorReadout.Proofs.StableSort
import DetectorReadout.SortedMultimap.Basic

/-!
# Adding an entry to a sorted multimap

What the two ways of adding an entry do to a map in order. Bisection finds the border between the keys that pass a test and
those that fail it (`lt_bisect_iff`, `exists_split_partitionPoint`), so `insert` puts the entry behind every equal key and
before every larger one (`insert_split`). `insertSortedEnd` looks at the last entry only; in a map in order this is the
largest key, so the entry is refused exactly when some key is larger than its own (`insertSortedEnd_error_iff`).
-/

namespace DetectorReadout

universe u v

/-- Bisection finds the border: when the indices that pass come before those that fail, an index lies before the border
exactly when it passes. -/
theorem lt_bisect_iff {test : Nat → Bool} (hmono : ∀ i j, i ≤ j → test j = true → test i = true) {lo hi : Nat}
    (hlo : ∀ i < lo, test i = true) (hhi : ∀ i, hi ≤ i → test i = false) (i : Nat) :
    i < bisect test lo hi ↔ test i = true := by
  fun_induction bisect test lo hi with
  | case1 lo hi hlt hpass ih =>
    -- The middle passes, and so does everything before it.
    exact ih (fun j hj => hmono j _ (Nat.lt_succ_iff.1 hj) hpass) hhi
  | case2 lo hi hlt hfail ih =>
    -- The middle fails, and so does everything behind it.
    refine ih hlo fun j hj => ?_
    cases hj' : test j with
    | false => rfl
    | true => exact absurd (hmono _ j hj hj') hfail
  | case3 lo hi hge =>
    constructor
    · exact hlo i
    · intro hpass
      by_cases hi' : i < lo
      · exact hi'
      · rw [hhi i (by omega)] at hpass
        exact absurd hpass (by decide)

/-- Bisection stays in the interval. -/
theorem bisect_le (test : Nat → Bool) {lo hi : Nat} (h : lo ≤ hi) : bisect test lo hi ≤ hi := by
  fun_induction bisect test lo hi with
  | case1 lo hi hlt hpass ih => exact ih (by omega)
  | case2 lo hi hlt hfail ih => exact Nat.le_trans (ih (by omega)) (by omega)
  | case3 lo hi hge => exact h

namespace SortedMultimap

variable {κ : Type u} {ν : Type v}

/-- The keys do not decrease from entry to entry. -/
def Ordered [LE κ] (m : SortedMultimap κ ν) : Prop := m.toList.Pairwise fun a b => a.1 ≤ b.1

@[simp] theorem toList_empty : (empty : SortedMultimap κ ν).toList = [] := rfl

@[simp] theorem length_toList (m : SortedMultimap κ ν) : m.toList.length = m.size := rfl

/-- A map is its list of entries. -/
theorem toList_inj {m m' : SortedMultimap κ ν} (h : m.toList = m'.toList) : m = m' := by
  obtain ⟨⟨l⟩⟩ := m
  obtain ⟨⟨l'⟩⟩ := m'
  exact congrArg (fun l : List (κ × ν) => ofEntries l.toArray) h

/-- The entry at an index of the array is the one at that index of the list. -/
theorem entries_getElem? (m : SortedMultimap κ ν) (i : Nat) : m.entries[i]? = m.toList[i]? :=
  Array.getElem?_toList.symm

/-- A border found by bisection lies within the map. -/
theorem partitionPoint_le_size (m : SortedMultimap κ ν) (test : κ → Bool) : m.partitionPoint test ≤ m.size :=
  bisect_le _ (Nat.zero_le _)

variable [LE κ] [Std.IsLinearOrder κ] {m : SortedMultimap κ ν}

/-- In a map in order, the key at an index is not larger than the key at a later index. -/
theorem Ordered.key_le (hm : m.Ordered) {i j : Nat} {a b : κ × ν} (hij : i ≤ j) (hi : m.toList[i]? = some a)
    (hj : m.toList[j]? = some b) : a.1 ≤ b.1 := by
  obtain ⟨hi', rfl⟩ := List.getElem?_eq_some_iff.1 hi
  obtain ⟨hj', rfl⟩ := List.getElem?_eq_some_iff.1 hj
  rcases Nat.lt_or_eq_of_le hij with hlt | rfl
  · exact List.pairwise_iff_getElem.1 hm i j hi' hj' hlt
  · exact Std.le_refl _

/-- Of a map in order, bisection by a test that holds of every key below one that passes finds the border: the index lies
within the map, and the entries before it are those that pass. -/
theorem lt_partitionPoint_iff (hm : m.Ordered) {test : κ → Bool}
    (htest : ∀ a b, a ≤ b → test b = true → test a = true) (i : Nat) :
    i < m.partitionPoint test ↔ ∃ e, m.toList[i]? = some e ∧ test e.1 = true := by
  have hpass (i : Nat) :
      (m.entries[i]?.any fun e => test e.1) = true ↔ ∃ e, m.toList[i]? = some e ∧ test e.1 = true := by
    rw [entries_getElem?, Option.any_eq_true]
  rw [← hpass i, partitionPoint]
  refine lt_bisect_iff ?_ (fun i hi => absurd hi (Nat.not_lt_zero i)) ?_ i
  · intro i j hij hj
    obtain ⟨e, he, ht⟩ := (hpass j).1 hj
    have hjlen : j < m.toList.length := (List.getElem?_eq_some_iff.1 he).1
    have hi : m.toList[i]? = some m.toList[i] := List.getElem?_eq_getElem (by omega)
    exact (hpass i).2 ⟨_, hi, htest _ _ (hm.key_le hij hi he) ht⟩
  · intro i hi
    rw [Array.getElem?_eq_none hi]
    rfl

/-- The entries of a map in order fall into those that pass the test and, behind them, those that fail it. -/
theorem exists_split_partitionPoint (hm : m.Ordered) {test : κ → Bool}
    (htest : ∀ a b, a ≤ b → test b = true → test a = true) :
    ∃ a b, m.toList = a ++ b ∧ a.length = m.partitionPoint test ∧ (∀ e ∈ a, test e.1 = true) ∧
      ∀ e ∈ b, test e.1 = false := by
  have hiff := lt_partitionPoint_iff hm htest
  have hle : m.partitionPoint test ≤ m.toList.length := m.partitionPoint_le_size test
  refine ⟨m.toList.take (m.partitionPoint test), m.toList.drop (m.partitionPoint test),
    (List.take_append_drop _ _).symm, List.length_take_of_le hle, ?_, ?_⟩
  · intro e he
    obtain ⟨i, hi, rfl⟩ := List.mem_take_iff_getElem.1 he
    obtain ⟨e, he, ht⟩ := (hiff i).1 (by omega)
    obtain ⟨_, rfl⟩ := List.getElem?_eq_some_iff.1 he
    exact ht
  · intro e he
    obtain ⟨i, hi, rfl⟩ := List.mem_drop_iff_getElem.1 he
    cases ht : test m.toList[m.partitionPoint test + i].1 with
    | false => rfl
    | true =>
      have := (hiff _).2 ⟨_, List.getElem?_eq_getElem (by omega), ht⟩
      omega

/-- A key below one that is not larger than `key` is not larger either. -/
theorem le_test_of_le [DecidableLE κ] (key a b : κ) (hab : a ≤ b) (hb : decide (b ≤ key) = true) :
    decide (a ≤ key) = true :=
  decide_eq_true (Std.le_trans hab (of_decide_eq_true hb))

variable [LT κ] [Std.LawfulOrderLT κ]

/-- A key below one that is smaller than `key` is smaller as well. -/
theorem lt_test_of_le [DecidableLT κ] (key a b : κ) (hab : a ≤ b) (hb : decide (b < key) = true) :
    decide (a < key) = true :=
  decide_eq_true (Std.lt_of_le_of_lt hab (of_decide_eq_true hb))

/-- What `insert` does to a map in order: the entries split into those whose keys are not larger and those whose keys are
larger, and the new entry goes in between, at the index that is handed back. -/
theorem insert_split [DecidableLE κ] (hm : m.Ordered) (key : κ) (value : ν) :
    ∃ a b, m.toList = a ++ b ∧ (m.insert key value).1.toList = a ++ (key, value) :: b ∧
      (m.insert key value).2 = a.length ∧ (∀ e ∈ a, e.1 ≤ key) ∧ ∀ e ∈ b, key < e.1 := by
  obtain ⟨a, b, hsplit, hlen, ha, hb⟩ := exists_split_partitionPoint hm (le_test_of_le key)
  refine ⟨a, b, hsplit, ?_, hlen.symm, fun e he => of_decide_eq_true (ha e he), fun e he => ?_⟩
  · have hentries : m.entries = (a ++ b).toArray := by
      rw [← hsplit]
      rfl
    have hindex : m.upperBound key = a.length := hlen.symm
    rw [insert, hindex, hentries, List.insertIdxIfInBounds_toArray]
    exact List.modifyTailIdx_add (List.cons (key, value)) 0 a b
  · exact Std.not_le.1 (of_decide_eq_false (hb e he))

/-- An insertion keeps a map in order. -/
theorem Ordered.insert [DecidableLE κ] [DecidableEq κ] (hm : m.Ordered) (key : κ) (value : ν) :
    (m.insert key value).1.Ordered := by
  obtain ⟨a, b, hsplit, hinsert, -, ha, hb⟩ := insert_split hm key value
  have hsort : StableSort m.toList (a ++ b) := hsplit ▸ StableSort.of_ordered hm
  rw [Ordered, hinsert]
  exact (hsort.insert_between ha hb).ordered

/-- What `insertSortedEnd` does to a map in order: either no key is larger and the entry is appended, or the last entry has a
larger key, the largest of the map, and this key and the rejected entry are handed back. -/
theorem insertSortedEnd_cases [DecidableLT κ] (hm : m.Ordered) (key : κ) (value : ν) :
    (∃ m', m.insertSortedEnd key value = .ok m' ∧ m'.toList = m.toList ++ [(key, value)] ∧
      ∀ e ∈ m.toList, e.1 ≤ key) ∨
    ∃ last, m.toList.getLast? = some last ∧ m.insertSortedEnd key value = .error ⟨last.1, key, value⟩ ∧ key < last.1 ∧
      ∀ e ∈ m.toList, e.1 ≤ last.1 := by
  have hlast : m.last? = m.toList.getLast? := (Array.getLast?_toList m.entries).symm
  have hpush : (⟨m.entries.push (key, value)⟩ : SortedMultimap κ ν).toList = m.toList ++ [(key, value)] :=
    Array.toList_push
  unfold insertSortedEnd
  rw [hlast]
  rcases List.eq_nil_or_concat m.toList with hnil | ⟨l, last, hl⟩
  · refine Or.inl ⟨_, by rw [hnil]; rfl, hpush, by simp [hnil]⟩
  · rw [List.concat_eq_append] at hl
    have hsome : m.toList.getLast? = some last := by rw [hl]; exact List.getLast?_concat
    have hmax : ∀ e ∈ m.toList, e.1 ≤ last.1 := by
      intro e he
      have hpair : (l ++ [last]).Pairwise fun a b => a.1 ≤ b.1 := hl ▸ hm
      rw [hl, List.mem_append, List.mem_singleton] at he
      rcases he with he | rfl
      · exact (List.pairwise_append.1 hpair).2.2 e he last List.mem_cons_self
      · exact Std.le_refl _
    rw [hsome]
    by_cases hlt : key < last.1
    · exact Or.inr ⟨last, rfl, by simp [hlt], hlt, hmax⟩
    · refine Or.inl ⟨_, by simp [hlt], hpush, fun e he => ?_⟩
      exact Std.le_trans (hmax e he) (Std.not_lt.1 hlt)

/-- An entry is refused exactly when some key is larger than its own. -/
theorem insertSortedEnd_error_iff [DecidableLT κ] (hm : m.Ordered) (key : κ) (value : ν) :
    (∃ refused, m.insertSortedEnd key value = .error refused) ↔ ∃ e ∈ m.toList, key < e.1 := by
  rcases insertSortedEnd_cases hm key value with ⟨m', hok, -, hle⟩ | ⟨last, hlast, herr, hlt, -⟩
  · refine ⟨fun ⟨_, h⟩ => ?_, fun ⟨e, he, hlt⟩ => absurd hlt (Std.not_lt.2 (hle e he))⟩
    rw [hok] at h
    cases h
  · exact ⟨fun _ => ⟨last, List.mem_of_getLast? hlast, hlt⟩, fun _ => ⟨_, herr⟩⟩

end SortedMultimap

end DetectorReadout
