/-!
# Stable sorting by key

`StableSort log sorted` says that `sorted` holds the entries of `log` in ascending key order, entries with equal keys in the
order of `log`. There is exactly one such list (`StableSort.unique`), and merge sort finds it (`stableSort_mergeSort`), so the
relation may stand for the sort. It survives a new entry that is put behind the entries whose keys are not larger and before
those whose keys are larger (`StableSort.insert_between`).
-/

namespace DetectorReadout

universe u v w

/-- `sorted` is the stable sort by key of `log`. -/
structure StableSort {κ : Type u} {ν : Type v} [LE κ] [DecidableEq κ] (log sorted : List (κ × ν)) : Prop where
  /-- The keys do not decrease. -/
  ordered : sorted.Pairwise fun a b => a.1 ≤ b.1
  /-- No entry is lost, duplicated or altered. -/
  perm : sorted.Perm log
  /-- Entries with equal keys stand in the order of the log. -/
  stable : ∀ key, (sorted.filter fun e => e.1 = key) = log.filter fun e => e.1 = key

variable {κ : Type u} {ν : Type v}

/-- Lists with the same entries under every key have the same members. -/
theorem mem_of_filters_eq [DecidableEq κ] {a b : List (κ × ν)}
    (h : ∀ key, (a.filter fun e => e.1 = key) = b.filter fun e => e.1 = key) {x : κ × ν} (hx : x ∈ a) : x ∈ b := by
  have hx' : x ∈ b.filter fun e => e.1 = x.1 := by
    rw [← h x.1]
    exact List.mem_filter.2 ⟨hx, by simp⟩
  exact (List.mem_filter.1 hx').1

variable [LE κ]

/-- The stable sort of nothing is empty. -/
theorem StableSort.nil [DecidableEq κ] : StableSort ([] : List (κ × ν)) [] :=
  ⟨List.Pairwise.nil, List.Perm.refl _, fun _ => rfl⟩

/-- A log in order is its own stable sort. -/
theorem StableSort.of_ordered [DecidableEq κ] {log : List (κ × ν)} (h : log.Pairwise fun a b => a.1 ≤ b.1) :
    StableSort log log :=
  ⟨h, List.Perm.refl _, fun _ => rfl⟩

/-- An entry that joins the log goes behind those whose keys are not larger and before those whose keys are larger. -/
theorem StableSort.insert_between [DecidableEq κ] [LT κ] [Std.LawfulOrderLT κ] {log a b : List (κ × ν)} {x : κ × ν}
    (h : StableSort log (a ++ b)) (ha : ∀ e ∈ a, e.1 ≤ x.1) (hb : ∀ e ∈ b, x.1 < e.1) :
    StableSort (log ++ [x]) (a ++ x :: b) where
  ordered := by
    obtain ⟨hpa, hpb, hab⟩ := List.pairwise_append.1 h.ordered
    refine List.pairwise_append.2 ⟨hpa, List.pairwise_cons.2 ⟨fun e he => Std.le_of_lt (hb e he), hpb⟩, ?_⟩
    intro e he f hf
    rcases List.mem_cons.1 hf with rfl | hf
    · exact ha e he
    · exact hab e he f hf
  perm := List.perm_middle.trans ((h.perm.cons x).trans (List.perm_append_singleton x log).symm)
  stable key := by
    have hkey := h.stable key
    rw [List.filter_append] at hkey
    rw [List.filter_append, List.filter_append, List.filter_cons, ← hkey, List.append_assoc]
    by_cases hk : x.1 = key
    · -- Nothing behind the new entry has its key, so the new entry is the last one under it.
      have hnone : (b.filter fun e => e.1 = key) = [] := by
        refine List.filter_eq_nil_iff.2 fun e he => ?_
        have hne : e.1 ≠ key := fun heq => Std.lt_irrefl (hk ▸ heq ▸ hb e he)
        simpa using hne
      simp [hk, hnone]
    · simp [hk]

/-- A function that keeps the keys, applied to the entries one by one, keeps a stable sort. -/
theorem StableSort.filterMap [DecidableEq κ] {μ : Type w} {f : κ × ν → Option (κ × μ)}
    (hkey : ∀ x y, f x = some y → y.1 = x.1) {log sorted : List (κ × ν)} (h : StableSort log sorted) :
    StableSort (log.filterMap f) (sorted.filterMap f) where
  ordered := by
    refine List.pairwise_filterMap.2 (h.ordered.imp ?_)
    intro a b hab x hx y hy
    rw [hkey a x hx, hkey b y hy]
    exact hab
  perm := h.perm.filterMap f
  stable key := by
    have hcomm (l : List (κ × ν)) :
        ((l.filterMap f).filter fun e => e.1 = key) = (l.filter fun e => e.1 = key).filterMap f := by
      rw [List.filter_filterMap, List.filterMap_filter]
      congr 1
      funext x
      cases hx : f x with
      | none => simp
      | some y => simp [Option.filter, hkey x y hx]
    rw [hcomm, hcomm, h.stable]

variable [Std.IsLinearOrder κ]

/-- The head of an ordered list has the smallest key. -/
theorem head_le_of_ordered {x : κ × ν} {l : List (κ × ν)} (h : (x :: l).Pairwise fun a b => a.1 ≤ b.1) :
    ∀ e ∈ x :: l, x.1 ≤ e.1 := by
  intro e he
  rcases List.mem_cons.1 he with rfl | he
  · exact Std.le_refl _
  · exact (List.pairwise_cons.1 h).1 e he

variable [DecidableEq κ]

/-- Ordered lists with the same entries under every key, in the same order, are equal. -/
theorem eq_of_ordered_of_filters_eq {a b : List (κ × ν)} (ha : a.Pairwise fun a b => a.1 ≤ b.1)
    (hb : b.Pairwise fun a b => a.1 ≤ b.1)
    (h : ∀ key, (a.filter fun e => e.1 = key) = b.filter fun e => e.1 = key) : a = b := by
  induction a generalizing b with
  | nil =>
    cases b with
    | nil => rfl
    | cons y u => exact absurd (mem_of_filters_eq (fun key => (h key).symm) List.mem_cons_self) List.not_mem_nil
  | cons x t ih =>
    cases b with
    | nil => exact absurd (mem_of_filters_eq h List.mem_cons_self) List.not_mem_nil
    | cons y u =>
      have hxy : x.1 = y.1 :=
        Std.le_antisymm
          (head_le_of_ordered ha y (mem_of_filters_eq (fun key => (h key).symm) List.mem_cons_self))
          (head_le_of_ordered hb x (mem_of_filters_eq h List.mem_cons_self))
      -- Both heads pass the test for their common key, so they are the heads of equal lists.
      have hfirst := h y.1
      simp only [List.filter_cons, hxy, decide_true, if_true, List.cons.injEq] at hfirst
      obtain ⟨rfl, -⟩ := hfirst
      rw [ih ha.of_cons hb.of_cons]
      intro key
      have hkey := h key
      by_cases hk : x.1 = key
      · simpa [List.filter_cons, hk] using hkey
      · simpa [List.filter_cons, hk] using hkey

/-- A log has one stable sort. -/
theorem StableSort.unique {log a b : List (κ × ν)} (ha : StableSort log a) (hb : StableSort log b) : a = b :=
  eq_of_ordered_of_filters_eq ha.ordered hb.ordered fun key => (ha.stable key).trans (hb.stable key).symm

/-- Merge sort by key is the stable sort. -/
theorem stableSort_mergeSort [DecidableLE κ] (log : List (κ × ν)) :
    StableSort log (log.mergeSort fun a b => a.1 ≤ b.1) := by
  have htrans (a b c : κ × ν) (h : decide (a.1 ≤ b.1) = true) (h' : decide (b.1 ≤ c.1) = true) :
      decide (a.1 ≤ c.1) = true :=
    decide_eq_true (Std.le_trans (of_decide_eq_true h) (of_decide_eq_true h'))
  have htotal (a b : κ × ν) : (decide (a.1 ≤ b.1) || decide (b.1 ≤ a.1)) = true := by
    simpa using Std.le_total (a := a.1) (b := b.1)
  have hperm := List.mergeSort_perm log fun a b => a.1 ≤ b.1
  refine ⟨(List.pairwise_mergeSort htrans htotal log).imp of_decide_eq_true, hperm, fun key => ?_⟩
  -- The entries under one key are a sublist that is in order already, and such a sublist survives the sort.
  have hordered : (log.filter fun e => e.1 = key).Pairwise fun a b => decide (a.1 ≤ b.1) = true := by
    refine List.pairwise_of_forall_mem_list fun a ha b hb => ?_
    have hak : a.1 = key := by simpa using (List.mem_filter.1 ha).2
    have hbk : b.1 = key := by simpa using (List.mem_filter.1 hb).2
    exact decide_eq_true (hak ▸ hbk ▸ Std.le_refl _)
  have hsub := (List.sublist_mergeSort htrans htotal hordered List.filter_sublist).filter fun e => decide (e.1 = key)
  rw [List.filter_filter] at hsub
  simp only [Bool.and_self] at hsub
  exact (hsub.eq_of_length (hperm.filter _).length_eq.symm).symm

/-- The stable sort of a log is what merge sort makes of it. -/
theorem StableSort.eq_mergeSort [DecidableLE κ] {log sorted : List (κ × ν)} (h : StableSort log sorted) :
    sorted = log.mergeSort fun a b => a.1 ≤ b.1 :=
  h.unique (stableSort_mergeSort log)

end DetectorReadout
