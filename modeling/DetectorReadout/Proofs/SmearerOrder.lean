import DetectorReadout.Event.Smearer
import DetectorReadout.Proofs.Insertion

/-!
# When smearing succeeds

The smearer appends its links one by one and gives up at the first one that is refused. Appending a list of entries to a map
in order either takes all of them, when keys do not decrease anywhere, or stops at the first key that is smaller than the one
before it (`SortedMultimap.appendAll_cases`). The links have the addresses of the hits (`Smearer.map_fst_links`), so smearing
succeeds exactly on hits in the order of their addresses (`Smearer.smear_ok_iff`).
-/

namespace DetectorReadout

universe u v

namespace SortedMultimap

variable {κ : Type u} {ν : Type v} [LT κ] [DecidableLT κ]

/-- The map with a list of entries appended one by one, or the first refusal. -/
def appendAll (m : SortedMultimap κ ν) (l : List (κ × ν)) : Except (OutOfOrder κ ν) (SortedMultimap κ ν) :=
  l.foldlM (fun m e => m.insertSortedEnd e.1 e.2) m

variable [LE κ] [Std.IsLinearOrder κ] [Std.LawfulOrderLT κ]

/-- What appending a list to a map in order does: either the keys do not decrease anywhere and all entries are taken, or the
list splits at the first key that is smaller than the key before it, and this entry is refused. -/
theorem appendAll_cases {m : SortedMultimap κ ν} (hm : m.Ordered) (l : List (κ × ν)) :
    (∃ m', m.appendAll l = .ok m' ∧ m'.toList = m.toList ++ l ∧ m'.Ordered) ∨
      ∃ a x b last, l = a ++ x :: b ∧ (m.toList ++ a).Pairwise (fun a b => a.1 ≤ b.1) ∧
        (m.toList ++ a).getLast? = some last ∧ x.1 < last.1 ∧ m.appendAll l = .error ⟨last.1, x.1, x.2⟩ := by
  induction l generalizing m with
  | nil => exact Or.inl ⟨m, rfl, (List.append_nil _).symm, hm⟩
  | cons x l ih =>
    rcases insertSortedEnd_cases hm x.1 x.2 with ⟨m', hok, happend, hle⟩ | ⟨last, hlast, herr, hlt, -⟩
    · have hm' : m'.Ordered := by
        rw [Ordered, happend]
        exact List.pairwise_append.2 ⟨hm, List.pairwise_singleton _ _, by simpa using hle⟩
      have hstep : m.appendAll (x :: l) = m'.appendAll l := by
        simp only [appendAll, List.foldlM_cons, hok]
        rfl
      rw [hstep]
      rcases ih hm' with ⟨m'', hok', hlist, hord⟩ | ⟨a, y, b, last, hl, hord, hlast, hlt, herr⟩
      · exact Or.inl ⟨m'', hok', by rw [hlist, happend, List.append_assoc]; rfl, hord⟩
      · have hcons : m'.toList ++ a = m.toList ++ (x :: a) := by
          rw [happend, List.append_assoc]
          rfl
        rw [hcons] at hord hlast
        exact Or.inr ⟨x :: a, y, b, last, by rw [hl]; rfl, hord, hlast, hlt, herr⟩
    · refine Or.inr ⟨[], x, l, last, rfl, by simpa [Ordered] using hm, by simpa using hlast, hlt, ?_⟩
      simp only [appendAll, List.foldlM_cons, herr]
      rfl

/-- Appending a list to the empty map takes all of it exactly when its keys do not decrease. -/
theorem appendAll_empty_ok_iff (l : List (κ × ν)) :
    (∃ m, appendAll .empty l = .ok m) ↔ l.Pairwise fun a b => a.1 ≤ b.1 := by
  rcases appendAll_cases (m := .empty) List.Pairwise.nil l with ⟨m, hok, hlist, hord⟩ | ⟨a, x, b, last, rfl, -, hlast, hlt, herr⟩
  · refine ⟨fun _ => ?_, fun _ => ⟨m, hok⟩⟩
    rw [Ordered, hlist] at hord
    simpa using hord
  · constructor
    · rintro ⟨m, hok⟩
      rw [herr] at hok
      cases hok
    · intro hord
      have hmem : last ∈ a := by simpa using List.mem_of_getLast? hlast
      exact absurd hlt (Std.not_lt.2 ((List.pairwise_append.1 hord).2.2 last hmem x List.mem_cons_self))

end SortedMultimap

/-- As many pairs are drawn as are asked for. -/
theorem Normal.length_pairs (n : Nat) (random : Keystream) : (Normal.pairs n random).length = n := by
  induction n generalizing random with
  | zero => rfl
  | succ n ih => simp only [Normal.pairs, List.length_cons, ih]

namespace Smearer

/-- Every hit has its link, under its address. -/
theorem map_fst_links (s : Smearer) (ctx : GeometryContext) (random : Keystream)
    (entries : List (GeometryId × Hit Float)) :
    (s.links ctx random entries).map (·.1) = entries.map (·.1) := by
  have hzip : (entries.zipIdx.zip (Normal.pairs entries.length random)).map (·.1) = entries.zipIdx :=
    List.map_fst_zip (by simp [Normal.length_pairs])
  calc (s.links ctx random entries).map (·.1)
      = ((entries.zipIdx.zip (Normal.pairs entries.length random)).map (·.1)).map (·.1.1) := by
        rw [links, List.map_map, List.map_map]
        rfl
    _ = (entries.zipIdx.map (·.1)).map (·.1) := by
        rw [hzip, List.map_map]
        rfl
    _ = entries.map (·.1) := by rw [List.zipIdx_map_fst]

/-- The links are in order exactly when the hits are. -/
theorem pairwise_links_iff (s : Smearer) (ctx : GeometryContext) (random : Keystream)
    (entries : List (GeometryId × Hit Float)) :
    ((s.links ctx random entries).Pairwise fun a b => a.1 ≤ b.1) ↔ entries.Pairwise fun a b => a.1 ≤ b.1 := by
  rw [← List.pairwise_map (f := Prod.fst) (R := (· ≤ ·)), map_fst_links, List.pairwise_map]

/-- Smearing appends the links one by one. -/
theorem smear_eq_appendAll (s : Smearer) (ctx : GeometryContext) (random : Keystream)
    (entries : List (GeometryId × Hit Float)) :
    s.smear ctx random entries = SortedMultimap.appendAll .empty (s.links ctx random entries) := rfl

/-- Smearing succeeds exactly on hits in the order of their addresses. -/
theorem smear_ok_iff (s : Smearer) (ctx : GeometryContext) (random : Keystream)
    (entries : List (GeometryId × Hit Float)) :
    (∃ links, s.smear ctx random entries = .ok links) ↔ entries.Pairwise fun a b => a.1 ≤ b.1 := by
  rw [smear_eq_appendAll, SortedMultimap.appendAll_empty_ok_iff, pairwise_links_iff]

end Smearer

end DetectorReadout
