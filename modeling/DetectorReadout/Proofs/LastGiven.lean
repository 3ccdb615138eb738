import Mathlib.Data.List.Induction

/-!
# The last of several writes

Where values are written one after another and each place keeps what was written to it last, reading a place gives the last
value that was meant for it, or what stood there before if none was (`read_foldl_write`). The writes may be of any kind: a
write that is not meant for the place leaves it alone.
-/

namespace DetectorReadout

universe u v w

variable {ω : Type u} {α : Type v} {β : Type w}

/-- The last value that some writes have for a place, where `value?` is what a single write has for it. -/
def lastGiven? (value? : ω → Option α) (writes : List ω) : Option α := (writes.filterMap value?).getLast?

/-- A further write counts if it is meant for the place. -/
theorem lastGiven?_concat (value? : ω → Option α) (writes : List ω) (x : ω) :
    lastGiven? value? (writes ++ [x]) = (value? x).or (lastGiven? value? writes) := by
  rw [lastGiven?, List.filterMap_append, List.getLast?_append, lastGiven?]
  cases h : value? x with
  | none => simp [h]
  | some a => simp [h]

/-- Converting every value converts the last one. -/
theorem lastGiven?_map (value? : ω → Option α) (f : α → β) (writes : List ω) :
    lastGiven? (fun x => (value? x).map f) writes = (lastGiven? value? writes).map f := by
  rw [lastGiven?, lastGiven?, ← List.getLast?_map, List.map_filterMap]

/-- Where the writes meant for the place are picked out by a test, the last of these counts. -/
theorem lastGiven?_of_test (test : ω → Bool) (f : ω → α) (writes : List ω) :
    lastGiven? (fun x => if test x then some (f x) else none) writes = (writes.filter test).getLast?.map f := by
  rw [lastGiven?, ← List.filterMap_filter, List.filterMap_eq_map', List.getLast?_map]

/-- If a single write is read back where it is meant for the place, and else leaves it as it is, then reading after several
writes gives the last value that was meant for the place. -/
theorem read_foldl_write {σ : Type u} {write : σ → ω → σ} (read : σ → α) {value? : ω → Option α}
    (hwrite : ∀ s x, read (write s x) = (value? x).getD (read s)) (writes : List ω) (s : σ) :
    read (writes.foldl write s) = (lastGiven? value? writes).getD (read s) := by
  induction writes using List.reverseRecOn with
  | nil => rfl
  | append_singleton writes x ih =>
    rw [List.foldl_append, List.foldl_cons, List.foldl_nil, hwrite, ih, lastGiven?_concat]
    cases value? x with
    | none => rfl
    | some a => rfl

end DetectorReadout
