import DetectorReadout.Proofs.History
import DetectorReadout.Proofs.RangeLookup

/-!
# What lookups by key answer

The bounds of a key in a map in order count the entries with smaller keys and those whose keys are not larger
(`lowerBound_eq_countP`, `upperBound_eq_countP`). So every range that a lookup cuts out lies within the map, a range between two
keys holds exactly the entries whose keys lie between them, none if the keys are in the wrong order (`rangeInclusive_eq_filter`),
and every map that came about by edits answers all lookups exactly (`exactLookups_afterEdits`).
-/

namespace DetectorReadout

universe u v

namespace SortedMultimap

variable {κ : Type u} {ν : Type v} [LE κ] [LT κ] [DecidableLE κ] [DecidableLT κ]

/-- The lookups by key answer what a search through all the entries would answer, and the ranges that they cut out lie within the
map. -/
structure ExactLookups [DecidableEq κ] (m : SortedMultimap κ ν) : Prop where
  /-- The lower bound of a key counts the entries with smaller keys. -/
  lowerBound : ∀ key, m.lowerBound key = m.toList.countP fun e => e.1 < key
  /-- The upper bound of a key counts the entries whose keys are not larger. -/
  upperBound : ∀ key, m.upperBound key = m.toList.countP fun e => e.1 ≤ key
  /-- The run of a key holds the entries with this key, in the order of the map. -/
  equalRange : ∀ key, m.equalRange key = m.toList.filter fun e => e.1 = key
  /-- A range holds the entries whose keys lie between its ends, in the order of the map. -/
  rangeInclusive : ∀ first last, m.rangeInclusive first last = m.toList.filter fun e => first ≤ e.1 ∧ e.1 ≤ last
  /-- A range whose ends are in the wrong order is empty. -/
  rangeInclusive_reversed : ∀ first last, last < first → m.rangeInclusive first last = []
  /-- The run of a key begins before it ends, and it ends within the map. -/
  equalRange_within : ∀ key, m.lowerBound key ≤ m.upperBound key ∧ m.upperBound key ≤ m.size
  /-- A range begins before it ends, and it ends within the map. -/
  rangeInclusive_within : ∀ first last, m.lowerBound first ≤ max (m.upperBound last) (m.lowerBound first) ∧
    max (m.upperBound last) (m.lowerBound first) ≤ m.size
  /-- The number of entries with a key. -/
  count : ∀ key, m.count key = m.toList.countP fun e => e.1 = key
  /-- A key is contained if some entry has it. -/
  contains : ∀ key, m.contains key = true ↔ ∃ e ∈ m.toList, e.1 = key

section Ordered

variable [Std.IsLinearOrder κ] [Std.LawfulOrderLT κ] {m : SortedMultimap κ ν} (hm : m.Ordered)

include hm

omit [DecidableLE κ] in
/-- The lower bound of a key counts the entries with smaller keys. -/
theorem lowerBound_eq_countP (key : κ) : m.lowerBound key = m.toList.countP fun e => e.1 < key :=
  partitionPoint_eq_countP hm (lt_test_of_le key)

omit [LT κ] [DecidableLT κ] [Std.LawfulOrderLT κ] in
/-- The upper bound of a key counts the entries whose keys are not larger. -/
theorem upperBound_eq_countP (key : κ) : m.upperBound key = m.toList.countP fun e => e.1 ≤ key :=
  partitionPoint_eq_countP hm (le_test_of_le key)

/-- Keys that are smaller than the first of two keys in order are not larger than the second. -/
theorem lowerBound_le_upperBound {first last : κ} (h : first ≤ last) : m.lowerBound first ≤ m.upperBound last := by
  rw [lowerBound_eq_countP hm, upperBound_eq_countP hm]
  refine List.countP_mono_left fun e _ he => ?_
  exact decide_eq_true (Std.le_trans (Std.le_of_lt (of_decide_eq_true he)) h)

/-- Keys that are not larger than a key are smaller than every key above it. -/
theorem upperBound_le_lowerBound {first last : κ} (h : last < first) : m.upperBound last ≤ m.lowerBound first := by
  rw [lowerBound_eq_countP hm, upperBound_eq_countP hm]
  refine List.countP_mono_left fun e _ he => ?_
  exact decide_eq_true (Std.lt_of_le_of_lt (of_decide_eq_true he) h)

/-- A range whose ends are in the wrong order is empty. -/
theorem rangeInclusive_of_lt {first last : κ} (h : last < first) : m.rangeInclusive first last = [] := by
  rw [rangeInclusive, Nat.max_eq_right (upperBound_le_lowerBound hm h), slice_eq_drop_take]
  exact List.drop_eq_nil_of_le (List.length_take_le _ _)

/-- A range holds the entries whose keys lie between its ends, in the order of the map. -/
theorem rangeInclusive_eq_filter (first last : κ) :
    m.rangeInclusive first last = m.toList.filter fun e => first ≤ e.1 ∧ e.1 ≤ last := by
  by_cases h : first ≤ last
  · rw [rangeInclusive, Nat.max_eq_left (lowerBound_le_upperBound hm h), slice_bounds hm h]
  · -- No key lies between ends in the wrong order.
    rw [rangeInclusive_of_lt hm (Std.not_le.1 h), eq_comm, List.filter_eq_nil_iff]
    exact fun e _ he => h (Std.le_trans (of_decide_eq_true he).1 (of_decide_eq_true he).2)

variable [DecidableEq κ]

/-- A map in order answers all lookups exactly. -/
theorem exactLookups_of_ordered : m.ExactLookups where
  lowerBound := lowerBound_eq_countP hm
  upperBound := upperBound_eq_countP hm
  equalRange := equalRange_eq_filter hm
  rangeInclusive := rangeInclusive_eq_filter hm
  rangeInclusive_reversed _ _ := rangeInclusive_of_lt hm
  equalRange_within key := ⟨lowerBound_le_upperBound hm (Std.le_refl key), m.partitionPoint_le_size _⟩
  rangeInclusive_within first last :=
    ⟨Nat.le_max_right _ _, Nat.max_le.2 ⟨m.partitionPoint_le_size _, m.partitionPoint_le_size _⟩⟩
  count key := by
    rw [count, equalRange_eq_filter hm, List.countP_eq_length_filter]
  contains key := by
    rw [contains, equalRange_eq_filter hm, Bool.not_eq_true', List.isEmpty_eq_false_iff_exists_mem]
    simp only [List.mem_filter, decide_eq_true_eq]

end Ordered

variable [DecidableEq κ] [Std.IsLinearOrder κ] [Std.LawfulOrderLT κ]

/-- After every sequence of edits, the bounds of a key count the entries before it and up to it, the run of a key and the range
between two keys hold exactly the entries that match, in the order of the map and without a cut beyond its ends, also if a key is
absent or the ends are in the wrong order, and the number and the presence of the entries with a key agree with this. -/
theorem exactLookups_afterEdits (edits : List (Edit κ ν)) : (afterEdits edits).ExactLookups :=
  exactLookups_of_ordered (ordered_afterEdits edits)

/-- A map with a run of three equal keys: the bounds of the run, a range with absent ends around it, and one with its ends in the
wrong order. -/
theorem exactLookups_afterEdits_runs :
    let m : SortedMultimap Nat Char :=
      afterEdits [.fromUnsorted [(7, 'a'), (4, 'b'), (4, 'c')], .insert 2 'd', .insert 4 'e', .insertSortedEnd 3 'x']
    m.toList = [(2, 'd'), (4, 'b'), (4, 'c'), (4, 'e'), (7, 'a')] ∧ m.lowerBound 4 = 1 ∧ m.upperBound 4 = 4 ∧
      m.equalRange 4 = [(4, 'b'), (4, 'c'), (4, 'e')] ∧ m.count 4 = 3 ∧ m.contains 5 = false ∧
      m.rangeInclusive 3 6 = [(4, 'b'), (4, 'c'), (4, 'e')] ∧ m.rangeInclusive 7 4 = [] := by
  intro m
  have hlookups : m.ExactLookups := exactLookups_afterEdits _
  have hlist : m.toList = [(2, 'd'), (4, 'b'), (4, 'c'), (4, 'e'), (7, 'a')] :=
    (stableSort_afterEdits _).eq_mergeSort.trans
      (by simp +decide [accepted, Edit.record, List.mergeSort, List.MergeSort.Internal.splitInTwo])
  refine ⟨hlist, ?_, ?_, ?_, ?_, ?_, ?_, hlookups.rangeInclusive_reversed 7 4 (by decide)⟩
  · rw [hlookups.lowerBound, hlist]
    rfl
  · rw [hlookups.upperBound, hlist]
    rfl
  · rw [hlookups.equalRange, hlist]
    rfl
  · rw [hlookups.count, hlist]
    rfl
  · rw [← Bool.not_eq_true, hlookups.contains, hlist]
    decide
  · rw [hlookups.rangeInclusive, hlist]
    rfl

end SortedMultimap

end DetectorReadout
