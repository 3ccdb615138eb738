import DetectorReadout.Detector.Description
import DetectorReadout.Proofs.DetectorContents

/-!
# Loading a detector

A list of modules is loaded if each of them can be built and no two have the same address (`Detector.Loadable`), and the
detector then holds their surfaces, whatever the order of the list was (`Detector.Holds`). If the list cannot be loaded, there
is a first module with a fault (`Detector.loadable_or_firstFault`): everything before it is loaded, and its fault is the
reason that is given (`Detector.ofModules_of_fault`).
-/

namespace DetectorReadout

variable {α : Type} [Scalar α]

namespace ModuleDescription

/-- How building a module can end: it needs no readout, or its readout cannot be made, or it gets its readout. -/
theorem build_cases (m : ModuleDescription α) :
    (m.digitize = false ∧ m.build = .ok ⟨m.id, .planar m.element⟩) ∨
      (m.digitize = true ∧ ∃ e, m.readout = .error e ∧ m.build = .error e) ∨
      (m.digitize = true ∧ ∃ r, m.readout = .ok r ∧ m.build = .ok ⟨m.id, .planar (m.element.withReadout r)⟩) := by
  unfold build
  cases m.digitize with
  | false => exact Or.inl ⟨rfl, rfl⟩
  | true =>
    right
    cases m.readout with
    | error e => exact Or.inl ⟨rfl, e, rfl, rfl⟩
    | ok r => exact Or.inr ⟨rfl, r, rfl, rfl⟩

/-- A module keeps its address when it is built. -/
theorem id_of_build {m : ModuleDescription α} {s : Surface α} (h : m.build = .ok s) : s.id = m.id := by
  rcases m.build_cases with ⟨-, hbuild⟩ | ⟨-, e, -, hbuild⟩ | ⟨-, r, -, hbuild⟩
  · cases h.symm.trans hbuild
    rfl
  · nomatch h.symm.trans hbuild
  · cases h.symm.trans hbuild
    rfl

end ModuleDescription

namespace Detector

/-- The modules can be loaded together. -/
structure Loadable (modules : List (ModuleDescription α)) : Prop where
  /-- Each module can be built. -/
  builds : ∀ m ∈ modules, ∃ s, m.build = .ok s
  /-- No two modules have the same address. -/
  distinct : (modules.map ModuleDescription.id).Nodup

/-- What is wrong with a module behind others. -/
inductive Fault (before : List (ModuleDescription α)) (m : ModuleDescription α) : GeometryError α → Prop where
  /-- It cannot be built. -/
  | unbuildable {e : GeometryError α} (h : m.build = .error e) : Fault before m e
  /-- It can be built, but its address is taken. -/
  | taken {s : Surface α} (h : m.build = .ok s) (hid : m.id ∈ before.map ModuleDescription.id) :
    Fault before m (.duplicateSurface m.id)

/-- The first fault in a list of modules: those before it can be loaded. -/
def FirstFault (modules : List (ModuleDescription α)) (e : GeometryError α) : Prop :=
  ∃ before m after, modules = before ++ m :: after ∧ Loadable before ∧ Fault before m e

/-- The surfaces of the modules that can be built, in the order of the list. -/
def built (modules : List (ModuleDescription α)) : List (Surface α) := modules.filterMap fun m => m.build.toOption

theorem built_concat (modules : List (ModuleDescription α)) {m : ModuleDescription α} {s : Surface α}
    (h : m.build = .ok s) : built (modules ++ [m]) = built modules ++ [s] := by
  simp [built, h, Except.toOption]

theorem mem_built {modules : List (ModuleDescription α)} {s : Surface α} :
    s ∈ built modules ↔ ∃ m ∈ modules, m.build = .ok s := by
  rw [built, List.mem_filterMap]
  refine exists_congr fun m => and_congr_right fun _ => ?_
  cases m.build <;> simp [Except.toOption]

namespace Loadable

variable {modules : List (ModuleDescription α)}

theorem nil : Loadable ([] : List (ModuleDescription α)) := ⟨nofun, List.nodup_nil⟩

/-- A module can be loaded behind others if it can be built and its address is not taken. -/
theorem concat_iff {m : ModuleDescription α} : Loadable (modules ++ [m]) ↔
    Loadable modules ∧ (∃ s, m.build = .ok s) ∧ m.id ∉ modules.map ModuleDescription.id := by
  have hdistinct : ((modules ++ [m]).map ModuleDescription.id).Nodup ↔
      (modules.map ModuleDescription.id).Nodup ∧ m.id ∉ modules.map ModuleDescription.id := by
    rw [List.map_append, List.map_singleton, ← List.concat_eq_append, List.nodup_concat, and_comm]
  constructor
  · intro h
    obtain ⟨hbefore, hfree⟩ := hdistinct.1 h.distinct
    exact ⟨⟨fun m' hm' => h.builds m' (List.mem_append_left _ hm'), hbefore⟩, h.builds m (by simp), hfree⟩
  · rintro ⟨h, hbuild, hfree⟩
    refine ⟨fun m' hm' => ?_, hdistinct.2 ⟨h.distinct, hfree⟩⟩
    rcases List.mem_append.1 hm' with hm' | hm'
    · exact h.builds m' hm'
    · rw [List.mem_singleton.1 hm']
      exact hbuild

/-- A single module can be loaded if it can be built. -/
theorem singleton {m : ModuleDescription α} {s : Surface α} (h : m.build = .ok s) : Loadable [m] :=
  concat_iff.2 ⟨nil, ⟨s, h⟩, List.not_mem_nil⟩

/-- The modules can be loaded in any order. -/
theorem perm {modules' : List (ModuleDescription α)} (h : Loadable modules) (hperm : modules.Perm modules') :
    Loadable modules' :=
  ⟨fun m hm => h.builds m (hperm.mem_iff.2 hm), (hperm.map _).nodup_iff.1 h.distinct⟩

/-- The surfaces have the addresses of their modules. -/
theorem map_id_built (h : Loadable modules) : (built modules).map Surface.id = modules.map ModuleDescription.id := by
  induction modules using List.reverseRecOn with
  | nil => rfl
  | append_singleton modules m ih =>
    obtain ⟨hbefore, ⟨s, hs⟩, -⟩ := concat_iff.1 h
    rw [built_concat modules hs, List.map_append, List.map_append, ih hbefore, List.map_singleton, List.map_singleton,
      ModuleDescription.id_of_build hs]

/-- No two surfaces have the same address. -/
theorem nodup_built (h : Loadable modules) : ((built modules).map Surface.id).Nodup := by
  rw [h.map_id_built]
  exact h.distinct

end Loadable

/-! ## The last module of a list -/

theorem ofModules_concat (modules : List (ModuleDescription α)) (m : ModuleDescription α) :
    ofModules (modules ++ [m]) = ofModules modules >>= fun d => m.build >>= d.add := by
  rw [ofModules, List.foldlM_append]
  exact bind_congr fun d => bind_pure _

/-- Modules that can be loaded are loaded: their surfaces are in the detector. -/
theorem ofModules_of_loadable {modules : List (ModuleDescription α)} (h : Loadable modules) :
    ofModules modules = .ok (ofSurfaces (built modules)) := by
  induction modules using List.reverseRecOn with
  | nil => rfl
  | append_singleton modules m ih =>
    obtain ⟨hbefore, ⟨s, hs⟩, hid⟩ := Loadable.concat_iff.1 h
    -- A surface that stands at the address is one of an earlier module, which would repeat it.
    have hfree : (ofSurfaces (built modules)).find? s.id = none := by
      rw [find?_ofSurfaces, List.find?_eq_none]
      intro t ht htid
      have hmem : m.id ∈ (built modules).map Surface.id := by
        rw [← ModuleDescription.id_of_build hs]
        exact List.mem_map.2 ⟨t, ht, by simpa using htid⟩
      rw [hbefore.map_id_built] at hmem
      exact hid hmem
    rw [ofModules_concat, ih hbefore, hs, built_concat modules hs, ofSurfaces_concat, offer_of_none hfree]
    exact add_of_none hfree

/-- The fault of a module behind others that can be loaded is the reason for a refusal, whatever comes after it. -/
theorem ofModules_of_fault {before : List (ModuleDescription α)} {m : ModuleDescription α} {e : GeometryError α}
    (h : Loadable before) (hfault : Fault before m e) (after : List (ModuleDescription α)) :
    ofModules (before ++ m :: after) = .error e := by
  have hm : ofModules (before ++ [m]) = .error e := by
    rw [ofModules_concat, ofModules_of_loadable h]
    cases hfault with
    | unbuildable he =>
      rw [he]
      rfl
    | taken hs hid =>
      have hsid := ModuleDescription.id_of_build hs
      rw [← h.map_id_built, ← hsid] at hid
      obtain ⟨t, ht, htid⟩ := List.mem_map.1 hid
      rw [hs, ← hsid]
      exact ((keepsFirst (built before)).add_error_iff _ _).2 ⟨rfl, t, ht, htid⟩
  rw [← List.singleton_append, ← List.append_assoc, ofModules, List.foldlM_append]
  rw [ofModules] at hm
  rw [hm]
  rfl

/-- A list that cannot be loaded has a first fault. -/
theorem loadable_or_firstFault (modules : List (ModuleDescription α)) :
    Loadable modules ∨ ∃ e, FirstFault modules e := by
  induction modules using List.reverseRecOn with
  | nil => exact Or.inl .nil
  | append_singleton modules m ih =>
    -- Only if there is no fault before the last module can its own one be the first.
    rcases ih with h | ⟨e, before, m', after, rfl, hbefore, hfault⟩
    · cases hs : m.build with
      | error e => exact Or.inr ⟨e, modules, m, [], rfl, h, .unbuildable hs⟩
      | ok s =>
        by_cases hid : m.id ∈ modules.map ModuleDescription.id
        · exact Or.inr ⟨_, modules, m, [], rfl, h, .taken hs hid⟩
        · exact Or.inl (Loadable.concat_iff.2 ⟨h, ⟨s, hs⟩, hid⟩)
    · exact Or.inr ⟨e, before, m', after ++ [m], by simp, hbefore, hfault⟩

/-- Modules are loaded exactly if they can be loaded together. -/
theorem ofModules_eq_ok_iff {modules : List (ModuleDescription α)} {d : Detector α} :
    ofModules modules = .ok d ↔ Loadable modules ∧ d = ofSurfaces (built modules) := by
  constructor
  · intro hd
    rcases loadable_or_firstFault modules with h | ⟨e, before, m, after, rfl, hbefore, hfault⟩
    · rw [ofModules_of_loadable h, Except.ok.injEq] at hd
      exact ⟨h, hd.symm⟩
    · nomatch hd.symm.trans (ofModules_of_fault hbefore hfault after)
  · rintro ⟨h, rfl⟩
    exact ofModules_of_loadable h

/-- Modules are refused for their first fault. -/
theorem ofModules_eq_error_iff {modules : List (ModuleDescription α)} {e : GeometryError α} :
    ofModules modules = .error e ↔ FirstFault modules e := by
  constructor
  · intro he
    rcases loadable_or_firstFault modules with h | ⟨e', before, m, after, rfl, hbefore, hfault⟩
    · nomatch he.symm.trans (ofModules_of_loadable h)
    · rw [ofModules_of_fault hbefore hfault after, Except.error.injEq] at he
      exact ⟨before, m, after, rfl, hbefore, he ▸ hfault⟩
  · rintro ⟨before, m, after, rfl, hbefore, hfault⟩
    exact ofModules_of_fault hbefore hfault after

/-! ## The loaded detector -/

/-- What the detector of modules holds. -/
structure Holds (modules : List (ModuleDescription α)) (d : Detector α) : Prop where
  /-- There is one surface for each module. -/
  size_eq : d.size = modules.length
  /-- The surface of a module is found at the address of the module. -/
  find?_id : ∀ m ∈ modules, ∃ s, m.build = .ok s ∧ d.find? m.id = some s
  /-- The surfaces of the modules are listed, and no others. -/
  surfaces_perm : d.surfaces.Perm (built modules)
  /-- The addresses ascend in this list. -/
  ascending : d.surfaces.Pairwise fun s t => s.id < t.id
  /-- The modules make the same detector in any order. -/
  of_perm : ∀ modules', modules.Perm modules' → ofModules modules' = .ok d

/-- Modules that can be loaded make a detector that holds their surfaces. -/
theorem Loadable.holds {modules : List (ModuleDescription α)} (h : Loadable modules) :
    Holds modules (ofSurfaces (built modules)) where
  size_eq := by
    rw [← length_surfaces, (surfaces_perm h.nodup_built).length_eq, ← List.length_map Surface.id, h.map_id_built,
      List.length_map]
  find?_id m hm := by
    obtain ⟨s, hs⟩ := h.builds m hm
    refine ⟨s, hs, (find?_ofSurfaces_eq_some_iff h.nodup_built).2 ⟨mem_built.2 ⟨m, hm, hs⟩, ?_⟩⟩
    exact ModuleDescription.id_of_build hs
  surfaces_perm := surfaces_perm h.nodup_built
  ascending := ascending_surfaces (built modules)
  of_perm modules' hperm := by
    rw [ofModules_of_loadable (h.perm hperm), ofSurfaces_eq_of_perm h.nodup_built (hperm.filterMap _)]
    rfl

/-- Loading is all or nothing: modules are loaded exactly if each can be built and no address repeats, and the detector then
holds the surface of each of them, whatever their order; otherwise the fault of the first module that has one is the reason for
the refusal. The address of a module is made of its volume, its layer and its number there, and its surface gets this address. In
general, of any surfaces that are added one after another, the first one with each address is kept. -/
theorem ofModules_all_or_first_fault (modules : List (ModuleDescription α)) (offered : List (Surface α)) :
    (∀ m ∈ modules, m.id = .ofModule m.volume m.layer m.sensitive ∧ ∀ s, m.build = .ok s → s.id = m.id) ∧
      ((∃ d, ofModules modules = .ok d) ↔ Loadable modules) ∧
      (∀ d, ofModules modules = .ok d → Holds modules d) ∧
      (∀ e, ofModules modules = .error e ↔ FirstFault modules e) ∧
      KeepsFirst offered := by
  refine ⟨fun m _ => ⟨rfl, fun s => ModuleDescription.id_of_build⟩, ⟨?_, ?_⟩, ?_, ?_, keepsFirst offered⟩
  · rintro ⟨d, hd⟩
    exact (ofModules_eq_ok_iff.1 hd).1
  · exact fun h => ⟨_, ofModules_of_loadable h⟩
  · intro d hd
    obtain ⟨h, rfl⟩ := ofModules_eq_ok_iff.1 hd
    exact h.holds
  · exact fun e => ofModules_eq_error_iff

/-- Two modules of one layer, both read out, make the same detector in either order, with the surface of each at its address. A third
one that repeats an address is refused. -/
theorem ofModules_all_or_first_fault_neighbours :
    let module : UInt64 → ModuleDescription Float := fun n => { volume := 1, layer := 2, sensitive := n }
    (∃ d, ofModules [module 4, module 3] = .ok d ∧ ofModules [module 3, module 4] = .ok d ∧ d.size = 2 ∧
        (∃ s, (module 3).build = .ok s ∧ d.find? (.ofModule 1 2 3) = some s) ∧
        ∃ s, (module 4).build = .ok s ∧ d.find? (.ofModule 1 2 4) = some s) ∧
      ofModules [module 4, module 3, module 4] = .error (.duplicateSurface (.ofModule 1 2 4)) := by
  intro module
  have hbuild : ∀ n, ∃ s, (module n).build = .ok s := by
    intro n
    -- The readout is the same for all numbers.
    have hreadout : (module 0).readout.toOption.isSome = true := by decide +kernel
    rcases (module n).build_cases with ⟨-, hok⟩ | ⟨-, e, herror, -⟩ | ⟨-, r, -, hok⟩
    · exact ⟨_, hok⟩
    · have herror' : (module 0).readout = .error e := herror
      rw [herror'] at hreadout
      nomatch hreadout
    · exact ⟨_, hok⟩
  have hload : Loadable [module 4, module 3] := by
    refine ⟨fun m hm => ?_, by decide +kernel⟩
    rcases List.mem_pair.1 hm with rfl | rfl
    · exact hbuild 4
    · exact hbuild 3
  obtain ⟨-, hloaded, hholds, -, -⟩ := ofModules_all_or_first_fault [module 4, module 3] []
  obtain ⟨d, hd⟩ := hloaded.2 hload
  have h := hholds d hd
  obtain ⟨s, hs⟩ := hbuild 4
  have hfault : FirstFault [module 4, module 3, module 4] (.duplicateSurface (module 4).id) :=
    ⟨[module 4, module 3], module 4, [], rfl, hload, .taken hs List.mem_cons_self⟩
  obtain ⟨-, -, -, hrefused, -⟩ := ofModules_all_or_first_fault [module 4, module 3, module 4] []
  refine ⟨⟨d, hd, h.of_perm _ (List.Perm.swap ..), h.size_eq, ?_, ?_⟩, (hrefused _).2 hfault⟩
  · exact h.find?_id (module 3) (by simp)
  · exact h.find?_id (module 4) (by simp)

end Detector

end DetectorReadout
