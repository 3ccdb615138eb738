import Mathlib.Data.List.Chain
import DetectorReadout.Proofs.Insertion

/-!
# Looking up a range of keys

In a map in order, the entries whose keys pass a test that holds of every key below one that passes are a leading run, and
bisection finds its length (`partitionPoint_eq_countP`). So the entries between two such borders are the entries that pass the
second test and fail the first (`slice_partitionPoint`): between the bounds of two keys stand the entries whose keys lie between
them (`slice_bounds`), and the run of a key holds every entry with this key (`equalRange_eq_filter`). Whether a map is in order is
what `isSorted` tells (`isSorted_iff_ordered`).
-/

namespace DetectorReadout

universe u v

namespace SortedMultimap

variable {κ : Type u} {ν : Type v}

/-- The entries at the indices from `start` up to and without `stop`. -/
theorem slice_eq_drop_take (m : SortedMultimap κ ν) (start stop : Nat) :
    m.slice start stop = (m.toList.take stop).drop start := by
  rw [slice, Array.toList_extract, List.extract_eq_take_drop, List.drop_take]
  rfl

variable [LE κ]

/-- Of a list in the order of its keys, the entries that fail a test which holds of every key below one that passes are those
behind the leading ones that pass it. -/
theorem drop_countP_of_ordered {l : List (κ × ν)} (hl : l.Pairwise fun a b => a.1 ≤ b.1) {test : κ → Bool}
    (htest : ∀ a b, a ≤ b → test b = true → test a = true) :
    l.drop (l.countP fun e => test e.1) = l.filter fun e => !test e.1 := by
  induction l with
  | nil => rfl
  | cons e l ih =>
    obtain ⟨hle, htail⟩ := List.pairwise_cons.1 hl
    cases he : test e.1 with
    | true => simpa [he] using ih htail
    | false =>
      -- Nothing behind the first entry that fails passes, so nothing is counted and nothing is left out.
      have hfail : ∀ f ∈ l, test f.1 = false := by
        intro f hf
        cases hft : test f.1 with
        | false => rfl
        | true => exact absurd (htest _ _ (hle f hf) hft) (by simp [he])
      have hcount : (e :: l).countP (fun e => test e.1) = 0 := by
        rw [List.countP_eq_zero]
        intro f hf
        rcases List.mem_cons.1 hf with rfl | hf
        · simp [he]
        · simp [hfail f hf]
      have hall : ∀ f ∈ e :: l, (!test f.1) = true := by
        intro f hf
        rcases List.mem_cons.1 hf with rfl | hf
        · simp [he]
        · simp [hfail f hf]
      rw [hcount, List.filter_eq_self.2 hall]
      rfl

variable [Std.IsLinearOrder κ] {m : SortedMultimap κ ν}

/-- Of a map in order, bisection by a test that holds of every key below one that passes counts the entries that pass, and
these are the leading ones. -/
theorem take_partitionPoint (hm : m.Ordered) {test : κ → Bool}
    (htest : ∀ a b, a ≤ b → test b = true → test a = true) :
    m.toList.take (m.partitionPoint test) = m.toList.filter fun e => test e.1 := by
  obtain ⟨a, b, hsplit, hlen, ha, hb⟩ := exists_split_partitionPoint hm htest
  rw [hsplit, ← hlen, List.take_left, List.filter_append, List.filter_eq_self.2 ha,
    List.filter_eq_nil_iff.2 fun e he => by simp [hb e he], List.append_nil]

/-- Of a map in order, bisection counts the entries that pass the test. -/
theorem partitionPoint_eq_countP (hm : m.Ordered) {test : κ → Bool}
    (htest : ∀ a b, a ≤ b → test b = true → test a = true) :
    m.partitionPoint test = m.toList.countP fun e => test e.1 := by
  obtain ⟨a, b, hsplit, hlen, ha, hb⟩ := exists_split_partitionPoint hm htest
  rw [hsplit, ← hlen, List.countP_append, List.countP_eq_length.2 ha,
    List.countP_eq_zero.2 fun e he => by simp [hb e he], Nat.add_zero]

/-- The entries of a map in order between the borders of two tests, the second one passed by every key that passes the
first, are those that pass the second test only. -/
theorem slice_partitionPoint (hm : m.Ordered) {below upTo : κ → Bool}
    (hbelow : ∀ a b, a ≤ b → below b = true → below a = true) (hupTo : ∀ a b, a ≤ b → upTo b = true → upTo a = true)
    (hsub : ∀ a, below a = true → upTo a = true) :
    m.slice (m.partitionPoint below) (m.partitionPoint upTo) = m.toList.filter fun e => !below e.1 && upTo e.1 := by
  have hcount : (m.toList.countP fun e => below e.1) = (m.toList.filter fun e => upTo e.1).countP fun e => below e.1 := by
    rw [List.countP_filter]
    refine List.countP_congr fun e _ => ?_
    simpa using fun h => hsub e.1 h
  rw [slice_eq_drop_take, take_partitionPoint hm hupTo, partitionPoint_eq_countP hm hbelow, hcount,
    drop_countP_of_ordered (hm.sublist List.filter_sublist) hbelow, List.filter_filter]

/-- Whether a map is in order can be told from neighbouring entries. -/
theorem isSorted_iff_ordered [DecidableLE κ] : m.isSorted = true ↔ m.Ordered := by
  have hchain (l : List (κ × ν)) :
      ((l.zip l.tail).all fun p => p.1.1 ≤ p.2.1) = true ↔ l.IsChain fun a b => a.1 ≤ b.1 := by
    induction l with
    | nil => simp
    | cons a l ih =>
      cases l with
      | nil => simp
      | cons b l => simpa using fun _ => ih
  have htrans : @Trans (κ × ν) (κ × ν) (κ × ν) (fun a b => a.1 ≤ b.1) (fun a b => a.1 ≤ b.1) fun a b => a.1 ≤ b.1 :=
    ⟨Std.le_trans⟩
  exact (hchain m.toList).trans List.isChain_iff_pairwise

variable [LT κ] [Std.LawfulOrderLT κ] [DecidableLT κ] [DecidableLE κ]

/-- The entries of a map in order between the bounds of two keys, the first one not larger than the second, are those whose keys
lie between them, in the order of the map. -/
theorem slice_bounds (hm : m.Ordered) {first last : κ} (h : first ≤ last) :
    m.slice (m.lowerBound first) (m.upperBound last) = m.toList.filter fun e => first ≤ e.1 ∧ e.1 ≤ last := by
  have hsub : ∀ a, decide (a < first) = true → decide (a ≤ last) = true := by
    intro a ha
    exact decide_eq_true (Std.le_trans (Std.le_of_lt (of_decide_eq_true ha)) h)
  rw [lowerBound, upperBound, slice_partitionPoint hm (lt_test_of_le first) (le_test_of_le last) hsub]
  refine List.filter_congr fun e _ => ?_
  rw [Bool.eq_iff_iff, Bool.and_eq_true, Bool.not_eq_true', decide_eq_false_iff_not, decide_eq_true_iff, decide_eq_true_iff,
    Std.not_lt]

/-- The run of a key in a map in order holds every entry with this key, in the order of the map. -/
theorem equalRange_eq_filter [DecidableEq κ] (hm : m.Ordered) (key : κ) :
    m.equalRange key = m.toList.filter fun e => e.1 = key := by
  rw [equalRange, slice_bounds hm (Std.le_refl key)]
  refine List.filter_congr fun e _ => ?_
  rw [decide_eq_decide]
  constructor
  · exact fun ⟨hge, hle⟩ => Std.le_antisymm hle hge
  · rintro rfl
    exact ⟨Std.le_refl _, Std.le_refl _⟩

end SortedMultimap

end DetectorReadout
