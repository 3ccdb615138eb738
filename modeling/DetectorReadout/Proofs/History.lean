import DetectorReadout.GeometryId
import DetectorReadout.Proofs.Insertion

/-!
# What a sorted multimap remembers of its edits

A map may be filled by sorting a list, by appending with a check and by inserting with a search, in any order of edits. The
log of a sequence of edits is the list of the entries accepted since the map was last emptied or rebuilt, in the order of
acceptance. After every sequence of edits the map holds the stable sort of its log (`stableSort_afterEdits`): one edit keeps
this (`Edit.stableSort_apply`), and so does a sequence.
-/

namespace DetectorReadout

universe u v

namespace SortedMultimap

/-- A change of a map. -/
inductive Edit (κ : Type u) (ν : Type v) where
  /-- Starts over with an empty map. -/
  | new
  /-- Starts over with an empty map that has room for some entries. -/
  | withCapacity (capacity : Nat)
  /-- Removes all entries. -/
  | clear
  /-- Starts over with the entries of a list, sorted. -/
  | fromUnsorted (entries : List (κ × ν))
  /-- Starts over with the entries that come one after another, sorted. -/
  | collect (entries : List (κ × ν))
  /-- Inserts an entry in its place. -/
  | insert (key : κ) (value : ν)
  /-- Appends an entry, unless its key is too small. -/
  | insertSortedEnd (key : κ) (value : ν)

variable {κ : Type u} {ν : Type v} [LE κ] [LT κ] [DecidableLE κ] [DecidableLT κ]

/-- The map after an edit. A refused append leaves it as it was. -/
def Edit.apply (m : SortedMultimap κ ν) : Edit κ ν → SortedMultimap κ ν
  | new => .empty
  | withCapacity capacity => .emptyWithCapacity capacity
  | clear => m.clear
  | fromUnsorted entries => .ofUnsorted entries
  | collect entries => .collect entries
  | insert key value => (m.insert key value).1
  | insertSortedEnd key value =>
    match m.insertSortedEnd key value with
    | .ok m' => m'
    | .error _ => m

/-- The log after an edit. An append is accepted unless its key is smaller than that of some entry of the log. -/
def Edit.record (log : List (κ × ν)) : Edit κ ν → List (κ × ν)
  | new | withCapacity _ | clear => []
  | fromUnsorted entries | collect entries => entries
  | insert key value => log ++ [(key, value)]
  | insertSortedEnd key value => if ∃ e ∈ log, key < e.1 then log else log ++ [(key, value)]

/-- The map after a sequence of edits, the first one made to an empty map. -/
def afterEdits (edits : List (Edit κ ν)) : SortedMultimap κ ν := edits.foldl Edit.apply .empty

/-- The entries accepted since the map was last emptied or rebuilt, in the order of acceptance. -/
def accepted (edits : List (Edit κ ν)) : List (κ × ν) := edits.foldl Edit.record []

/-- A refused append leaves the map as it was. -/
theorem afterEdits_concat_of_error {edits : List (Edit κ ν)} {key : κ} {value : ν} {refused : OutOfOrder κ ν}
    (h : (afterEdits edits).insertSortedEnd key value = .error refused) :
    afterEdits (edits ++ [.insertSortedEnd key value]) = afterEdits edits := by
  have hstep : afterEdits (edits ++ [.insertSortedEnd key value]) =
      Edit.apply (afterEdits edits) (.insertSortedEnd key value) := by
    simp only [afterEdits, List.foldl_append, List.foldl_cons, List.foldl_nil]
  rw [hstep, Edit.apply, h]

variable [DecidableEq κ] [Std.IsLinearOrder κ] [Std.LawfulOrderLT κ]

/-- One edit keeps the map the stable sort of its log. -/
theorem Edit.stableSort_apply {log : List (κ × ν)} {m : SortedMultimap κ ν} (h : StableSort log m.toList)
    (edit : Edit κ ν) : StableSort (edit.record log) (edit.apply m).toList := by
  cases edit with
  | new => exact StableSort.nil
  | withCapacity capacity => exact StableSort.nil
  | clear => exact StableSort.nil
  | fromUnsorted entries => exact stableSort_mergeSort entries
  | collect entries => exact stableSort_mergeSort entries
  | insert key value =>
    obtain ⟨a, b, hsplit, hinsert, -, ha, hb⟩ := insert_split h.ordered key value
    simp only [apply, record]
    rw [hinsert]
    exact StableSort.insert_between (hsplit ▸ h) ha hb
  | insertSortedEnd key value =>
    simp only [apply, record]
    rcases insertSortedEnd_cases h.ordered key value with ⟨m', hok, happend, hle⟩ | ⟨last, hlast, herr, hlt, -⟩
    · have hlog : ¬∃ e ∈ log, key < e.1 := by
        rintro ⟨e, he, hlt⟩
        exact Std.not_lt.2 (hle e (h.perm.mem_iff.2 he)) hlt
      rw [hok, if_neg hlog, happend]
      exact StableSort.insert_between (by simpa using h) hle (by simp)
    · rw [herr, if_pos ⟨last, h.perm.mem_iff.1 (List.mem_of_getLast? hlast), hlt⟩]
      exact h

/-- After every sequence of edits the map is the stable sort of its log. -/
theorem stableSort_afterEdits (edits : List (Edit κ ν)) : StableSort (accepted edits) (afterEdits edits).toList := by
  have hrun : ∀ (log : List (κ × ν)) (m : SortedMultimap κ ν), StableSort log m.toList →
      StableSort (edits.foldl Edit.record log) (edits.foldl Edit.apply m).toList := by
    induction edits with
    | nil => exact fun log m h => h
    | cons edit edits ih => exact fun log m h => ih _ _ (edit.stableSort_apply h)
  exact hrun [] .empty StableSort.nil

/-- A map that came about by edits is in order. -/
theorem ordered_afterEdits (edits : List (Edit κ ν)) : (afterEdits edits).Ordered :=
  (stableSort_afterEdits edits).ordered

/-- A sorted multimap refines the stable sort of its log. After every sequence of edits it holds the entries of the log, each
once and unaltered, with keys that do not decrease and equal keys in the order of acceptance. An append is refused exactly
when its key is smaller than some stored key; the largest key and the rejected entry are handed back, and the map stays as it
was. An insertion puts the entry behind the entries whose keys are not larger and before those whose keys are larger, and hands
back its index. -/
theorem edits_refine_stable_sort (edits : List (Edit κ ν)) :
    StableSort (accepted edits) (afterEdits edits).toList ∧
      (afterEdits edits).toList = ((accepted edits).mergeSort fun a b => a.1 ≤ b.1) ∧
      (∀ key value,
        ((∃ refused, (afterEdits edits).insertSortedEnd key value = .error refused) ↔
          ∃ e ∈ (afterEdits edits).toList, key < e.1) ∧
        ∀ refused, (afterEdits edits).insertSortedEnd key value = .error refused →
          refused.last ∈ (afterEdits edits).keys ∧ (∀ e ∈ (afterEdits edits).toList, e.1 ≤ refused.last) ∧
            refused.key = key ∧ refused.value = value ∧
            afterEdits (edits ++ [.insertSortedEnd key value]) = afterEdits edits) ∧
      ∀ key value, ∃ before behind,
        (afterEdits edits).toList = before ++ behind ∧
          ((afterEdits edits).insert key value).1.toList = before ++ (key, value) :: behind ∧
          ((afterEdits edits).insert key value).2 = before.length ∧
          (∀ e ∈ before, e.1 ≤ key) ∧ ∀ e ∈ behind, key < e.1 := by
  have hsort := stableSort_afterEdits edits
  refine ⟨hsort, hsort.eq_mergeSort, fun key value => ⟨insertSortedEnd_error_iff hsort.ordered key value, ?_⟩,
    insert_split hsort.ordered⟩
  intro refused hrefused
  rcases insertSortedEnd_cases hsort.ordered key value with ⟨m', hok, -, -⟩ | ⟨last, hlast, herr, -, hmax⟩
  · rw [hok] at hrefused
    cases hrefused
  · have hsame := afterEdits_concat_of_error hrefused
    rw [herr] at hrefused
    cases hrefused
    exact ⟨List.mem_map_of_mem (List.mem_of_getLast? hlast), hmax, rfl, rfl, hsame⟩

/-- With equal keys from all three ways of filling a map, and with a refused append between them, equal keys stand in the
order of acceptance: the refused entry `x` is not there, and `d`, inserted after `a` and `c`, stands behind both. -/
theorem edits_refine_stable_sort_ties :
    (afterEdits (κ := GeometryId) [.fromUnsorted [(⟨2⟩, 'a'), (⟨1⟩, 'b'), (⟨2⟩, 'c')], .insert ⟨2⟩ 'd',
      .insertSortedEnd ⟨1⟩ 'x', .insertSortedEnd ⟨2⟩ 'e', .insert ⟨1⟩ 'f']).toList =
        [(⟨1⟩, 'b'), (⟨1⟩, 'f'), (⟨2⟩, 'a'), (⟨2⟩, 'c'), (⟨2⟩, 'd'), (⟨2⟩, 'e')] :=
  (edits_refine_stable_sort _).2.1.trans
    (by simp +decide [accepted, Edit.record, List.mergeSort, List.MergeSort.Internal.splitInTwo])

end SortedMultimap

end DetectorReadout
