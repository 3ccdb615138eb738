import Mathlib.Data.List.Induction
import Mathlib.Data.List.Nodup
import DetectorReadout.Detector.Basic

/-!
# What a detector holds

A detector is what stands at each address (`Detector.ext_find?`). Surfaces are offered to it one after another, and a surface
whose address is taken is refused and changes nothing, so at each address stands the first surface that was offered with it
(`Detector.find?_ofSurfaces`). The surfaces are listed in the order of their addresses (`Detector.ascending_surfaces`). If no
two of the offered ones have the same address, exactly these are listed (`Detector.surfaces_perm`), and their order was of no
importance (`Detector.ofSurfaces_eq_of_perm`).
-/

namespace DetectorReadout

variable {α : Type} [Scalar α]

/-- Of surfaces with different addresses, the one found by an address is the one that has it. -/
theorem Surface.find?_eq_some_iff {l : List (Surface α)} (h : (l.map Surface.id).Nodup) {id : GeometryId}
    {s : Surface α} : l.find? (fun t => t.id = id) = some s ↔ s ∈ l ∧ s.id = id := by
  constructor
  · intro hs
    exact ⟨List.mem_of_find?_eq_some hs, by simpa using List.find?_some hs⟩
  · rintro ⟨hs, rfl⟩
    have hfound : (l.find? fun t => t.id = s.id).isSome := by
      rw [List.find?_isSome]
      exact ⟨s, hs, by simp⟩
    obtain ⟨t, ht⟩ := Option.isSome_iff_exists.1 hfound
    have hid : t.id = s.id := by simpa using List.find?_some ht
    rw [ht, List.inj_on_of_nodup_map h (List.mem_of_find?_eq_some ht) hs hid]

namespace Detector

/-- The detector with a surface put at its address, whatever stood there. -/
def put (d : Detector α) (s : Surface α) : Detector α := ⟨d.byId.insert s.id s⟩

/-- Detectors with the same surface at every address are equal. -/
theorem ext_find? {d d' : Detector α} (h : ∀ id, d.find? id = d'.find? id) : d = d' := by
  obtain ⟨m⟩ := d
  obtain ⟨m'⟩ := d'
  exact congrArg mk (Std.ExtTreeMap.ext_getElem? fun id => h id)

@[simp] theorem find?_empty (id : GeometryId) : (empty : Detector α).find? id = none :=
  Std.ExtTreeMap.getElem?_empty

/-- A surface is put at one address, and the others are left as they are. -/
theorem find?_put (d : Detector α) (s : Surface α) (id : GeometryId) :
    (d.put s).find? id = if s.id = id then some s else d.find? id := by
  have hcompare : compare s.id id = .eq ↔ s.id = id :=
    ⟨Std.LawfulEqOrd.eq_of_compare, fun h => h ▸ Std.ReflOrd.compare_self⟩
  rw [find?, put, Std.ExtTreeMap.getElem?_insert]
  exact if_congr hcompare rfl rfl

/-- An address is taken when a surface stands at it. -/
theorem contains_eq_isSome (d : Detector α) (id : GeometryId) : d.byId.contains id = (d.find? id).isSome :=
  Std.ExtTreeMap.contains_eq_isSome_getElem?

/-- A surface is added at an address that is free. -/
theorem add_of_none {d : Detector α} {s : Surface α} (h : d.find? s.id = none) : d.add s = .ok (d.put s) := by
  have hfree : d.byId.contains s.id = false := by
    rw [contains_eq_isSome, h]
    rfl
  simp only [add, hfree]
  rfl

/-- A surface with an address that is taken is refused. -/
theorem add_of_some {d : Detector α} {s t : Surface α} (h : d.find? s.id = some t) :
    d.add s = .error (.duplicateSurface s.id) := by
  have htaken : d.byId.contains s.id = true := by
    rw [contains_eq_isSome, h]
    rfl
  simp only [add, htaken, if_true]

/-! ## Surfaces offered one after another -/

/-- The detector behind the offer of a surface. A refused one changes nothing. -/
def offer (d : Detector α) (s : Surface α) : Detector α :=
  match d.add s with
  | .ok d' => d'
  | .error _ => d

/-- The detector behind a sequence of offers, the first one made to the detector without surfaces. -/
def ofSurfaces (l : List (Surface α)) : Detector α := l.foldl offer .empty

theorem ofSurfaces_concat (l : List (Surface α)) (s : Surface α) : ofSurfaces (l ++ [s]) = (ofSurfaces l).offer s := by
  rw [ofSurfaces, List.foldl_append]
  rfl

/-- An offer at a free address is taken. -/
theorem offer_of_none {d : Detector α} {s : Surface α} (h : d.find? s.id = none) : d.offer s = d.put s := by
  rw [offer, add_of_none h]

/-- An offer at a taken address changes nothing. -/
theorem offer_of_some {d : Detector α} {s t : Surface α} (h : d.find? s.id = some t) : d.offer s = d := by
  rw [offer, add_of_some h]

/-- An offer fills an address that was free, and no other. -/
theorem find?_offer (d : Detector α) (s : Surface α) (id : GeometryId) :
    (d.offer s).find? id = (d.find? id).or (if s.id = id then some s else none) := by
  cases h : d.find? s.id with
  | none =>
    rw [offer_of_none h, find?_put]
    by_cases hid : s.id = id
    · rw [if_pos hid, if_pos hid, ← hid, h, Option.none_or]
    · rw [if_neg hid, if_neg hid, Option.or_none]
  | some t =>
    rw [offer_of_some h]
    by_cases hid : s.id = id
    · rw [← hid, h, Option.some_or]
    · rw [if_neg hid, Option.or_none]

/-- At each address stands the first surface that was offered with it. -/
theorem find?_ofSurfaces (l : List (Surface α)) (id : GeometryId) :
    (ofSurfaces l).find? id = l.find? fun s => s.id = id := by
  induction l using List.reverseRecOn with
  | nil => exact find?_empty id
  | append_singleton l s ih =>
    rw [ofSurfaces_concat, find?_offer, ih, List.find?_append]
    by_cases hid : s.id = id
    · simp [hid]
    · simp [hid]

/-- Of surfaces with different addresses, each stands at its own. -/
theorem find?_ofSurfaces_eq_some_iff {l : List (Surface α)} (h : (l.map Surface.id).Nodup) {id : GeometryId}
    {s : Surface α} : (ofSurfaces l).find? id = some s ↔ s ∈ l ∧ s.id = id := by
  rw [find?_ofSurfaces]
  exact Surface.find?_eq_some_iff h

/-- What becomes of the offers, told by the offers alone. -/
structure KeepsFirst (l : List (Surface α)) : Prop where
  /-- At each address stands the first surface that was offered with it. -/
  find?_eq : ∀ id, (ofSurfaces l).find? id = l.find? fun s => s.id = id
  /-- A surface is refused exactly if its address was offered before. -/
  add_error_iff : ∀ s e, (ofSurfaces l).add s = .error e ↔ e = .duplicateSurface s.id ∧ ∃ t ∈ l, t.id = s.id
  /-- A refused surface changes nothing. -/
  unchanged : ∀ s e, (ofSurfaces l).add s = .error e → ofSurfaces (l ++ [s]) = ofSurfaces l
  /-- A surface that is not refused is in the detector from then on. -/
  changed : ∀ s d, (ofSurfaces l).add s = .ok d → ofSurfaces (l ++ [s]) = d

/-- At each address the first surface is kept, and all others are refused. -/
theorem keepsFirst (l : List (Surface α)) : KeepsFirst l where
  find?_eq := find?_ofSurfaces l
  add_error_iff s e := by
    have htaken : (ofSurfaces l).find? s.id = none ↔ ¬∃ t ∈ l, t.id = s.id := by
      rw [find?_ofSurfaces, List.find?_eq_none]
      simp
    cases h : (ofSurfaces l).find? s.id with
    | none => exact iff_of_false (by simp [add_of_none h]) fun ⟨_, ht⟩ => htaken.1 h ht
    | some t =>
      rw [add_of_some h, Except.error.injEq, eq_comm]
      refine (and_iff_left ?_).symm
      exact not_not.1 fun hfree => nomatch h.symm.trans (htaken.2 hfree)
  unchanged s e h := by rw [ofSurfaces_concat, offer, h]
  changed s d h := by rw [ofSurfaces_concat, offer, h]

/-- The order in which surfaces with different addresses are offered is of no importance. -/
theorem ofSurfaces_eq_of_perm {l l' : List (Surface α)} (h : (l.map Surface.id).Nodup) (hperm : l.Perm l') :
    ofSurfaces l = ofSurfaces l' := by
  refine ext_find? fun id => Option.ext fun s => ?_
  have h' : (l'.map Surface.id).Nodup := (hperm.map _).nodup_iff.1 h
  rw [find?_ofSurfaces_eq_some_iff h, find?_ofSurfaces_eq_some_iff h', hperm.mem_iff]

/-! ## The list of surfaces -/

/-- The surfaces are the values of the map, in the order of its keys. -/
theorem surfaces_eq_map_toList (d : Detector α) : d.surfaces = d.byId.toList.map Prod.snd := by
  obtain ⟨⟨m⟩⟩ := d
  induction m using Std.ExtDTreeMap.inductionOn with
  | mk m =>
    show m.inner.values = (Std.DTreeMap.Internal.Impl.Const.toList m.inner).map Prod.snd
    rw [Std.DTreeMap.Internal.Impl.values_eq_map_snd, Std.DTreeMap.Internal.Impl.Const.toList_eq_toListModel_map,
      List.map_map]
    rfl

/-- There are as many surfaces as the size says. -/
theorem length_surfaces (d : Detector α) : d.surfaces.length = d.size := by
  rw [surfaces_eq_map_toList, List.length_map]
  exact Std.ExtTreeMap.length_toList

/-- The surfaces that are listed are those that stand at some address. -/
theorem mem_surfaces_iff {d : Detector α} {s : Surface α} : s ∈ d.surfaces ↔ ∃ id, d.find? id = some s := by
  rw [surfaces_eq_map_toList, List.mem_map]
  constructor
  · rintro ⟨⟨id, t⟩, ht, rfl⟩
    exact ⟨id, Std.ExtTreeMap.mem_toList_iff_getElem?_eq_some.1 ht⟩
  · rintro ⟨id, hid⟩
    exact ⟨(id, s), Std.ExtTreeMap.mem_toList_iff_getElem?_eq_some.2 hid, rfl⟩

/-- Offered surfaces are listed in the order of their addresses, and no address is listed twice. -/
theorem ascending_surfaces (l : List (Surface α)) : (ofSurfaces l).surfaces.Pairwise fun s t => s.id < t.id := by
  have hkeyed : ∀ e ∈ (ofSurfaces l).byId.toList, e.2.id = e.1 := by
    rintro ⟨id, s⟩ he
    have hfind : (ofSurfaces l).find? id = some s := Std.ExtTreeMap.mem_toList_iff_getElem?_eq_some.1 he
    rw [find?_ofSurfaces] at hfind
    simpa using List.find?_some hfind
  rw [surfaces_eq_map_toList, List.pairwise_map]
  have hordered : (ofSurfaces l).byId.toList.Pairwise fun a b => compare a.1 b.1 = .lt :=
    Std.ExtTreeMap.ordered_keys_toList
  refine hordered.imp_of_mem fun {a b} ha hb hab => ?_
  rw [hkeyed a ha, hkeyed b hb]
  exact (Std.compare_eq_lt (α := UInt64)).1 hab

/-- Of surfaces with different addresses, exactly the offered ones are listed. -/
theorem surfaces_perm {l : List (Surface α)} (h : (l.map Surface.id).Nodup) : (ofSurfaces l).surfaces.Perm l := by
  have hnodup : (ofSurfaces l).surfaces.Nodup := by
    refine (ascending_surfaces l).imp fun {s t} hlt => ?_
    rintro rfl
    exact Std.lt_irrefl hlt
  refine (List.perm_ext_iff_of_nodup hnodup h.of_map).2 fun s => ?_
  rw [mem_surfaces_iff]
  constructor
  · rintro ⟨id, hid⟩
    exact ((find?_ofSurfaces_eq_some_iff h).1 hid).1
  · exact fun hs => ⟨s.id, (find?_ofSurfaces_eq_some_iff h).2 ⟨hs, rfl⟩⟩

end Detector

end DetectorReadout
