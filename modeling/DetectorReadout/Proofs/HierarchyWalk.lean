import DetectorReadout.Proofs.SubtreeSelection

/-!
# Walking down the hierarchy

The selections one level below a place cut the selection of the place into pieces: one behind the other they are the whole of it,
in the order of the numbers of the lower level, and so each entry stands in one of them (`fallsInto_selections`). Two facts carry
this. Among the addresses that agree down to a level, the order of the words is the order of the numbers one level below
(`GeometryId.get_le_get`), and a list in the order of some number is what its parts with the numbers zero, one and so on make one
behind the other (`filter_lt_eq_flatten`).
-/

namespace DetectorReadout

universe u

/-! ## Cutting a list by a number -/

/-- A list falls into parts. -/
structure FallsInto {β : Type u} (whole : List β) (parts : List (List β)) : Prop where
  /-- One behind the other, the parts are the whole list. -/
  complete : parts.flatten = whole
  /-- No part has an element of another. -/
  disjoint : parts.Pairwise List.Disjoint
  /-- The elements of a part stand side by side. -/
  contiguous : ∀ part ∈ parts, part <:+: whole

section Cutting

variable {β : Type u} {l : List β} {number : β → Nat} (hl : l.Pairwise fun a b => number a ≤ number b)

include hl

/-- In the order of a number, the elements whose number is `n` follow those whose number is smaller. -/
theorem filter_lt_append_filter_eq (n : Nat) :
    (l.filter fun a => number a < n) ++ (l.filter fun a => number a = n) = l.filter fun a => number a < n + 1 := by
  induction l with
  | nil => rfl
  | cons a l ih =>
    obtain ⟨hle, htail⟩ := List.pairwise_cons.1 hl
    by_cases ha : number a < n
    · have hne : number a ≠ n := Nat.ne_of_lt ha
      have hlt : number a < n + 1 := Nat.lt_succ_of_lt ha
      simp only [List.filter_cons, ha, hne, hlt, decide_true, decide_false, if_true, Bool.false_eq_true, if_false,
        List.cons_append, ih htail]
    · -- No number behind the first one is smaller, so up to `n` there is only `n` itself.
      have hge : ∀ b ∈ a :: l, n ≤ number b := by
        intro b hb
        rcases List.mem_cons.1 hb with rfl | hb
        · exact Nat.not_lt.1 ha
        · exact Nat.le_trans (Nat.not_lt.1 ha) (hle b hb)
      have hnone : ((a :: l).filter fun b => number b < n) = [] :=
        List.filter_eq_nil_iff.2 fun b hb => by simpa using hge b hb
      rw [hnone, List.nil_append]
      refine List.filter_congr fun b hb => decide_eq_decide.2 ?_
      have := hge b hb
      omega

/-- The elements whose number is smaller than `n` are the parts with the numbers below `n`, one behind the other. -/
theorem filter_lt_eq_flatten (n : Nat) :
    ((List.range n).map fun k => l.filter fun a => number a = k).flatten = l.filter fun a => number a < n := by
  induction n with
  | zero => simp
  | succ n ih =>
    rw [List.range_succ, List.map_append, List.flatten_append, ih, List.map_singleton, List.flatten_singleton,
      filter_lt_append_filter_eq hl]

end Cutting

namespace GeometryField

/-- The numbers that a field can hold, in ascending order. -/
def numbers (f : GeometryField) : List UInt64 := (List.range (f.maxValue.toNat + 1)).map UInt64.ofNat

theorem toNat_ofNat_of_lt {f : GeometryField} {n : Nat} (h : n < f.maxValue.toNat + 1) : (UInt64.ofNat n).toNat = n := by
  have hword := f.maxValue.toNat_lt
  exact UInt64.toNat_ofNat_of_lt' (by rw [UInt64.size]; omega)

theorem nodup_numbers (f : GeometryField) : f.numbers.Nodup := by
  refine List.pairwise_map.2 (List.nodup_range.imp_of_mem fun {a b} ha hb hne heq => hne ?_)
  rw [← toNat_ofNat_of_lt (List.mem_range.1 ha), heq, toNat_ofNat_of_lt (List.mem_range.1 hb)]

theorem mod_capacity_of_mem_numbers {f : GeometryField} {w : UInt64} (h : w ∈ f.numbers) : w % .ofNat f.capacity = w := by
  obtain ⟨n, hn, rfl⟩ := List.mem_map.1 h
  have hcapacity : f.capacity < UInt64.size := by cases f <;> decide
  have hlt := List.mem_range.1 hn
  rw [← UInt64.toNat_inj, UInt64.toNat_mod, UInt64.toNat_ofNat_of_lt' hcapacity, toNat_ofNat_of_lt hlt]
  exact Nat.mod_eq_of_lt (f.toNat_maxValue ▸ hlt)

/-- A level and those above it are different from the next one below. -/
theorem ne_of_level_le {f g : GeometryField} (h : f.below? = some g) {e : GeometryField} (he : e.level ≤ f.level) : e ≠ g := by
  rintro rfl
  cases f <;> cases h <;> exact absurd he (by decide)

end GeometryField

/-- A list in the order of a number that a field can hold falls into the parts with each of these numbers. -/
theorem fallsInto_filters {β : Type u} {l : List β} {number : β → UInt64} (f : GeometryField)
    (hl : l.Pairwise fun a b => number a ≤ number b) (hfits : ∀ a ∈ l, (number a).toNat < f.capacity) :
    FallsInto l (f.numbers.map fun w => l.filter fun a => number a = w) := by
  have hcomplete : (f.numbers.map fun w => l.filter fun a => number a = w).flatten = l := by
    have hparts : ∀ n ∈ List.range (f.maxValue.toNat + 1),
        (l.filter fun a => number a = .ofNat n) = l.filter fun a => (number a).toNat = n := by
      intro n hn
      refine List.filter_congr fun a _ => decide_eq_decide.2 ?_
      rw [← UInt64.toNat_inj, GeometryField.toNat_ofNat_of_lt (List.mem_range.1 hn)]
    have hall : (l.filter fun a => (number a).toNat < f.maxValue.toNat + 1) = l :=
      List.filter_eq_self.2 fun a ha => decide_eq_true (f.toNat_maxValue ▸ hfits a ha)
    calc (f.numbers.map fun w => l.filter fun a => number a = w).flatten
        = ((List.range (f.maxValue.toNat + 1)).map fun n => l.filter fun a => (number a).toNat = n).flatten := by
          rw [GeometryField.numbers, List.map_map]
          exact congrArg List.flatten (List.map_congr_left hparts)
      _ = l.filter fun a => (number a).toNat < f.maxValue.toNat + 1 :=
          filter_lt_eq_flatten (hl.imp UInt64.le_iff_toNat_le.1) _
      _ = l := hall
  refine ⟨hcomplete, List.pairwise_map.2 (f.nodup_numbers.imp fun hne => ?_), fun part hpart => ?_⟩
  · intro a ha hb
    have hw := of_decide_eq_true (List.mem_filter.1 ha).2
    exact hne (hw.symm.trans (of_decide_eq_true (List.mem_filter.1 hb).2))
  · obtain ⟨before, behind, hsplit⟩ := List.append_of_mem hpart
    refine ⟨before.flatten, behind.flatten, ?_⟩
    rw [← hcomplete, hsplit, List.flatten_append, List.flatten_cons, List.append_assoc]

/-! ## One level below a place -/

namespace GeometryId

variable {x y place : GeometryId} {f g : GeometryField}

theorem leading_le_leading (h : x ≤ y) (f : GeometryField) : x.leading f ≤ y.leading f :=
  Nat.div_le_div_right (UInt64.le_iff_toNat_le.1 h)

/-- The order of words is the order of volumes. -/
theorem get_volume_le (h : x ≤ y) : x.get .volume ≤ y.get .volume := by
  rw [UInt64.le_iff_toNat_le, ← leading_volume, ← leading_volume]
  exact leading_le_leading h .volume

/-- Among addresses that agree down to a level, the order of words is the order of the numbers one level below. -/
theorem get_le_get (h : f.below? = some g) (hagree : x.AgreesDownTo y f) (hle : x ≤ y) : x.get g ≤ y.get g := by
  have hleading := leading_le_leading hle g
  rw [leading_of_below h, leading_of_below h, (leading_eq_iff f).2 hagree] at hleading
  exact UInt64.le_iff_toNat_le.2 (Nat.le_of_add_le_add_left hleading)

/-- The addresses below a place one level further down are those below the place that have the number of this level. -/
theorem agreesDownTo_set_iff (h : f.below? = some g) {w : UInt64} (hw : w ∈ g.numbers) :
    x.AgreesDownTo (place.set g w) g ↔ x.AgreesDownTo place f ∧ x.get g = w := by
  rw [agreesDownTo_of_below h, get_set_self, GeometryField.mod_capacity_of_mem_numbers hw]
  refine and_congr_left fun _ => forall_congr' fun e => imp_congr_right fun he => ?_
  rw [get_set_of_ne _ (GeometryField.ne_of_level_le h he)]

end GeometryId

namespace SortedMultimap

variable {ν : Type u} {m : GeometryMultimap ν}

/-- A map in order falls into its volumes. -/
theorem fallsInto_volumes (hm : m.Ordered) : FallsInto m.toList (GeometryField.volume.numbers.map m.selectVolume) := by
  have hvolume : ∀ w ∈ GeometryField.volume.numbers, (m.toList.filter fun e => e.1.get .volume = w) = m.selectVolume w := by
    intro w hw
    rw [selectVolume, select_eq_filter hm]
    refine List.filter_congr fun e _ => decide_eq_decide.2 ?_
    rw [GeometryId.agreesDownTo_volume, GeometryId.get_set_self, GeometryField.mod_capacity_of_mem_numbers hw]
  have hfalls := fallsInto_filters .volume (hm.imp GeometryId.get_volume_le) fun e _ => e.1.toNat_get_lt .volume
  rwa [List.map_congr_left hvolume] at hfalls

/-- A selection from a map in order falls into the selections one level below. -/
theorem fallsInto_selections (hm : m.Ordered) (place : GeometryId) {f g : GeometryField} (h : f.below? = some g) :
    FallsInto (m.select place f) (g.numbers.map fun w => m.select (place.set g w) g) := by
  have hordered : (m.select place f).Pairwise fun a b => a.1.get g ≤ b.1.get g := by
    rw [select_eq_filter hm]
    refine (List.Pairwise.filter _ hm).imp_of_mem fun ha hb hle => ?_
    -- Both addresses agree with the place, and so with each other.
    have hx := of_decide_eq_true (List.mem_filter.1 ha).2
    have hy := of_decide_eq_true (List.mem_filter.1 hb).2
    exact GeometryId.get_le_get h (fun e he => (hx e he).trans (hy e he).symm) hle
  have hpart : ∀ w ∈ g.numbers, ((m.select place f).filter fun e => e.1.get g = w) = m.select (place.set g w) g := by
    intro w hw
    rw [select_eq_filter hm, select_eq_filter hm, List.filter_filter]
    refine List.filter_congr fun e _ => ?_
    rw [decide_eq_decide.2 (GeometryId.agreesDownTo_set_iff h hw), Bool.decide_and, Bool.and_comm]
  have hfalls := fallsInto_filters g hordered fun e _ => e.1.toNat_get_lt g
  rwa [List.map_congr_left hpart] at hfalls

/-- Walking down the hierarchy of a map that came about by edits meets every entry once, in the order of the map. The whole map
falls into its volumes from zero to the last one, and at every place the selection of a level falls into the selections one level
below, from the number zero to the largest one that the lower level can hold: they have no entry in common, each is one run of
entries, and one behind the other they are the whole selection. -/
theorem fallsInto_at_every_level (edits : List (Edit GeometryId ν)) :
    let m : GeometryMultimap ν := afterEdits edits
    FallsInto m.toList (GeometryField.volume.numbers.map m.selectVolume) ∧
      ∀ place f g, GeometryField.below? f = some g →
        FallsInto (m.select place f) (g.numbers.map fun w => m.select (place.set g w) g) :=
  ⟨fallsInto_volumes (ordered_afterEdits edits), fun place _ _ => fallsInto_selections (ordered_afterEdits edits) place⟩

/-- Addresses at the ends of their fields: a boundary of the last volume falls into its layers, with entries in the first one and in
the last, whatever layer the place itself has. -/
theorem fallsInto_at_every_level_ends :
    let m : GeometryMultimap Char := afterEdits
      [.fromUnsorted [(⟨0xffffffffffffffff⟩, 'd'), (⟨0xffff000000000000⟩, 'b'), (⟨0⟩, 'a')],
        .insert ⟨0xffff000fffffffff⟩ 'c']
    let place : GeometryId := .pack 255 255 7 0 0
    FallsInto (m.select place .boundary) (GeometryField.layer.numbers.map fun w => m.select (place.set .layer w) .layer) ∧
      (m.select place .boundary).map (·.2) = ['b', 'c', 'd'] ∧
      (m.select (place.set .layer 0) .layer).map (·.2) = ['b', 'c'] ∧
      (m.select (place.set .layer 4095) .layer).map (·.2) = ['d'] := by
  intro m place
  have hlist : m.toList = [(⟨0⟩, 'a'), (⟨0xffff000000000000⟩, 'b'), (⟨0xffff000fffffffff⟩, 'c'),
      (⟨0xffffffffffffffff⟩, 'd')] :=
    (stableSort_afterEdits _).eq_mergeSort.trans
      (by simp +decide [accepted, Edit.record, List.mergeSort, List.MergeSort.Internal.splitInTwo])
  have hselect : ∀ place f, m.select place f = m.toList.filter fun e => e.1.AgreesDownTo place f :=
    select_eq_filter (ordered_afterEdits _)
  refine ⟨(fallsInto_at_every_level _).2 place .boundary .layer rfl, ?_, ?_, ?_⟩ <;> rw [hselect, hlist] <;> decide +kernel

end SortedMultimap

end DetectorReadout
