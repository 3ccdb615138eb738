import Mathlib.Data.List.Count
import Mathlib.Data.Prod.Basic
import DetectorReadout.Proofs.KeyRanges

/-!
# Inverting a truth map

Inverting a map in order lists its swapped pairs in lexicographic order: the sort compares only the new keys, but it is stable, and
the old keys, which are the new values, were in order before (`pairSort_invert`). A list has one lexicographic order of its pairs
(`PairSort.unique`), so a map that is inverted twice is the map again exactly if the values under each of its keys were in order
already, and inverting once more changes nothing any more (`invert_involutive_up_to_order`).
-/

namespace DetectorReadout

universe u v

variable {κ : Type u} {ν : Type v} [LE κ] [LT κ] [LE ν]

/-- The pairs are in lexicographic order. -/
def LexOrdered (l : List (κ × ν)) : Prop := l.Pairwise (Prod.Lex (· < ·) (· ≤ ·))

/-- `sorted` holds the pairs of `l`, each as often, in lexicographic order. -/
structure PairSort (l sorted : List (κ × ν)) : Prop where
  /-- The keys do not decrease, and neither do the values under one key. -/
  ordered : LexOrdered sorted
  /-- No pair is lost, duplicated or altered. -/
  perm : sorted.Perm l

variable [Std.IsLinearOrder κ] [Std.LawfulOrderLT κ]

/-- A list is in lexicographic order exactly if the keys are in order, and the values under each key are as well. -/
theorem lexOrdered_iff [DecidableEq κ] {l : List (κ × ν)} :
    LexOrdered l ↔ (l.Pairwise fun a b => a.1 ≤ b.1) ∧ ∀ key, (l.filter fun e => e.1 = key).Pairwise fun a b => a.2 ≤ b.2 := by
  constructor
  · intro h
    refine ⟨h.imp fun hab => ?_, fun key => ?_⟩
    · rcases Prod.lex_def.1 hab with hlt | ⟨heq, -⟩
      · exact Std.le_of_lt hlt
      · exact heq ▸ Std.le_refl _
    · refine (List.Pairwise.filter _ h).imp_of_mem fun ha hb hab => ?_
      have hak := of_decide_eq_true (List.mem_filter.1 ha).2
      have hbk := of_decide_eq_true (List.mem_filter.1 hb).2
      rcases Prod.lex_def.1 hab with hlt | ⟨-, hle⟩
      · exact absurd (hak ▸ hbk ▸ hlt) Std.lt_irrefl
      · exact hle
  · rintro ⟨hkeys, hvalues⟩
    refine List.pairwise_iff_forall_sublist.2 fun {a b} hsub => Prod.lex_def.2 ?_
    have hle : a.1 ≤ b.1 := List.pairwise_iff_forall_sublist.1 hkeys hsub
    by_cases heq : a.1 = b.1
    · -- Both pairs are listed under one key.
      have hunder := hsub.filter fun e => decide (e.1 = b.1)
      rw [List.filter_eq_self.2 (by simp [heq])] at hunder
      exact Or.inr ⟨heq, List.pairwise_iff_forall_sublist.1 (hvalues b.1) hunder⟩
    · exact Or.inl (Std.lt_of_le_of_ne hle heq)

/-- A stable sort by key of pairs whose values are in order is their lexicographic order. -/
theorem StableSort.lexOrdered [DecidableEq κ] {log sorted : List (κ × ν)} (h : StableSort log sorted)
    (hvalues : log.Pairwise fun a b => a.2 ≤ b.2) : LexOrdered sorted := by
  refine lexOrdered_iff.2 ⟨h.ordered, fun key => ?_⟩
  rw [h.stable]
  exact hvalues.sublist List.filter_sublist

variable [Std.IsLinearOrder ν]

/-- Pairs have one lexicographic order. -/
theorem PairSort.unique {l a b : List (κ × ν)} (ha : PairSort l a) (hb : PairSort l b) : a = b := by
  refine (ha.perm.trans hb.perm.symm).eq_of_pairwise (fun x y _ _ hxy hyx => ?_) ha.ordered hb.ordered
  rcases Prod.lex_def.1 hxy with hlt | ⟨heq, hle⟩
  · rcases Prod.lex_def.1 hyx with hgt | ⟨heq, -⟩
    · exact absurd (Std.lt_trans hlt hgt) Std.lt_irrefl
    · exact absurd (heq ▸ hlt) Std.lt_irrefl
  · rcases Prod.lex_def.1 hyx with hgt | ⟨-, hge⟩
    · exact absurd (heq ▸ hgt) Std.lt_irrefl
    · exact Prod.ext heq (Std.le_antisymm hle hge)

namespace SortedMultimap

section Sorting

variable {κ : Type u} {ν : Type v} [LE ν] [DecidableLE ν] [DecidableEq ν] [Std.IsLinearOrder ν]

/-- Inverting a map sorts its swapped pairs by the new keys. -/
theorem stableSort_invert (m : SortedMultimap κ ν) : StableSort (m.toList.map Prod.swap) m.invert.toList :=
  stableSort_mergeSort _

/-- The pairs of an inverted map, swapped back, are those of the map. -/
theorem swap_invert_perm (m : SortedMultimap κ ν) : (m.invert.toList.map Prod.swap).Perm m.toList := by
  have hperm := m.stableSort_invert.perm.map Prod.swap
  rwa [List.map_map, Prod.swap_swap_eq, List.map_id] at hperm

variable [LE κ] [LT ν] [Std.LawfulOrderLT ν]

/-- Inverting a map in order lists its swapped pairs in lexicographic order. -/
theorem pairSort_invert {m : SortedMultimap κ ν} (hm : m.Ordered) :
    PairSort (m.toList.map Prod.swap) m.invert.toList where
  ordered := m.stableSort_invert.lexOrdered (List.pairwise_map.2 hm)
  perm := m.stableSort_invert.perm

end Sorting

variable [DecidableEq κ] [DecidableLE κ] [DecidableEq ν] [DecidableLE ν] {m : SortedMultimap κ ν}

/-- Inverting twice lists the pairs in lexicographic order. -/
theorem pairSort_invert_invert (m : SortedMultimap κ ν) : PairSort m.toList m.invert.invert.toList where
  ordered := (pairSort_invert m.stableSort_invert.ordered).ordered
  perm := (pairSort_invert m.stableSort_invert.ordered).perm.trans m.swap_invert_perm

/-- Inverting twice gives a map back exactly if it is in lexicographic order. -/
theorem invert_invert_eq_iff : m.invert.invert = m ↔ LexOrdered m.toList := by
  have hsort := m.pairSort_invert_invert
  constructor
  · intro h
    rw [h] at hsort
    exact hsort.ordered
  · exact fun h => toList_inj (hsort.unique ⟨h, List.Perm.refl _⟩)

variable [LT ν] [Std.LawfulOrderLT ν] [DecidableLT κ] [DecidableLT ν]

/-- A pair is listed under its new key as often as it was under the old one. -/
theorem count_equalRange_invert (hm : m.Ordered) (a : κ) (b : ν) :
    (m.invert.equalRange b).count (b, a) = (m.equalRange a).count (a, b) := by
  have hswap : (m.toList.map Prod.swap).count (b, a) = m.toList.count (a, b) :=
    List.count_map_of_injective m.toList Prod.swap Prod.swap_injective (a, b)
  rw [equalRange_eq_filter m.stableSort_invert.ordered, equalRange_eq_filter hm, List.count_filter (by simp),
    List.count_filter (by simp), m.stableSort_invert.perm.count_eq, hswap]

/-- Inverting a map that came about by edits loses nothing, and but for the order of values it is its own inverse. The inverted map
lists the swapped pairs, each as often as before, in lexicographic order, so a key is listed under a value as often as the value was
listed under the key. Inverting twice lists the pairs themselves in lexicographic order, which is the map again exactly if the
values under each of its keys do not decrease, and inverting three times is inverting once. -/
theorem invert_involutive_up_to_order (edits : List (Edit κ ν)) :
    let m : SortedMultimap κ ν := afterEdits edits
    PairSort (m.toList.map Prod.swap) m.invert.toList ∧
      (∀ a b, (m.invert.equalRange b).count (b, a) = (m.equalRange a).count (a, b)) ∧
      PairSort m.toList m.invert.invert.toList ∧
      (m.invert.invert = m ↔ ∀ key, (m.equalRange key).Pairwise fun a b => a.2 ≤ b.2) ∧
      m.invert.invert.invert = m.invert := by
  intro m
  have hm : m.Ordered := ordered_afterEdits edits
  refine ⟨pairSort_invert hm, count_equalRange_invert hm, m.pairSort_invert_invert, ?_,
    invert_invert_eq_iff.2 (pairSort_invert hm).ordered⟩
  simp only [equalRange_eq_filter hm]
  exact invert_invert_eq_iff.trans (lexOrdered_iff.trans (and_iff_right hm))

/-- A map with a pair that is listed twice and values that decrease under one key: inverting twice puts them in order, and inverting
once more changes nothing. -/
theorem invert_involutive_up_to_order_repeated :
    let m : SortedMultimap Nat Nat := afterEdits [.insert 2 3, .insert 1 5, .insert 1 3, .insert 1 5]
    m.toList = [(1, 5), (1, 3), (1, 5), (2, 3)] ∧ m.invert.toList = [(3, 1), (3, 2), (5, 1), (5, 1)] ∧
      (m.invert.equalRange 5).count (5, 1) = 2 ∧ m.invert.invert.toList = [(1, 3), (1, 5), (1, 5), (2, 3)] ∧
      m.invert.invert ≠ m ∧ m.invert.invert.invert = m.invert := by
  intro m
  have hlist : m.toList = [(1, 5), (1, 3), (1, 5), (2, 3)] :=
    (stableSort_afterEdits _).eq_mergeSort.trans
      (by simp +decide [accepted, Edit.record, List.mergeSort, List.MergeSort.Internal.splitInTwo])
  obtain ⟨honce, hcount, htwice, hback, hthrice⟩ := invert_involutive_up_to_order (κ := Nat) (ν := Nat)
    [.insert 2 3, .insert 1 5, .insert 1 3, .insert 1 5]
  have hrun : m.equalRange 1 = [(1, 5), (1, 3), (1, 5)] := by
    rw [equalRange_eq_filter (ordered_afterEdits _), hlist]
    rfl
  refine ⟨hlist, honce.unique ⟨?_, ?_⟩, ?_, htwice.unique ⟨?_, ?_⟩, fun h => ?_, hthrice⟩
  · simp [LexOrdered, Prod.lex_def]
  · rw [hlist]
    decide
  · rw [hcount, hrun]
    rfl
  · simp [LexOrdered, Prod.lex_def]
  · rw [hlist]
    decide
  · have hvalues := hback.1 h 1
    rw [hrun] at hvalues
    simp at hvalues

end SortedMultimap

end DetectorReadout
