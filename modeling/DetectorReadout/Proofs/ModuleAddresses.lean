import DetectorReadout.Proofs.AddressFields
import DetectorReadout.Proofs.DetectorLoading

/-!
# The addresses of described modules

A module declares a number for its volume, its layer and its place in the layer. Its address has these numbers reduced to what
their fields can hold (`ModuleDescription.KeptIn`), and nothing checks that they fit, so a wide number is loaded as a smaller
one, and two modules whose numbers differ may have the same address (`ModuleDescription.Aliases`). Modules with numbers that fit
keep them, and are told apart (`ModuleDescription.Aliases.eq_of_fits`).
-/

namespace DetectorReadout

variable {α : Type} [Scalar α]

namespace ModuleDescription

/-- The number that a module declares for a level of the hierarchy; zero for the levels of which a module has none. -/
def number (m : ModuleDescription α) : GeometryField → UInt64
  | .volume => m.volume
  | .layer => m.layer
  | .sensitive => m.sensitive
  | .boundary | .approach => 0

/-- The numbers of two modules agree on what their fields can hold. -/
def Aliases (m m' : ModuleDescription α) : Prop :=
  ∀ f, (m.number f).toNat % f.capacity = (m'.number f).toNat % f.capacity

/-- Each number of the module can be held by its field. -/
def Fits (m : ModuleDescription α) : Prop := ∀ f, m.number f ≤ f.maxValue

/-- What an address keeps of the numbers that a module declares. -/
structure KeptIn (m : ModuleDescription α) (id : GeometryId) : Prop where
  /-- Each number is reduced to the capacity of its field. -/
  get_eq : ∀ f, (id.get f).toNat = (m.number f).toNat % f.capacity
  /-- A number is kept as it was declared exactly if its field can hold it. -/
  get_eq_iff : ∀ f, id.get f = m.number f ↔ m.number f ≤ f.maxValue

/-- The address of a module is made of its numbers. -/
theorem id_eq_ofNumbers (m : ModuleDescription α) : m.id = .ofNumbers m.number := rfl

/-- The address of a module keeps its numbers as far as they fit. -/
theorem keptIn_id (m : ModuleDescription α) : m.KeptIn m.id where
  get_eq := GeometryId.toNat_get_ofNumbers m.number
  get_eq_iff := GeometryId.get_ofNumbers_eq_iff m.number

/-- Modules have the same address exactly if their numbers agree on what the fields can hold. -/
theorem id_eq_iff {m m' : ModuleDescription α} : m.id = m'.id ↔ m.Aliases m' := by
  rw [id_eq_ofNumbers, id_eq_ofNumbers]
  exact GeometryId.ofNumbers_eq_iff

/-- Modules with numbers that fit have the same address only if the numbers are the same. -/
theorem Aliases.eq_of_fits {m m' : ModuleDescription α} (h : m.Aliases m') (hm : m.Fits) (hm' : m'.Fits) :
    m.number = m'.number := by
  funext f
  rw [← (m.keptIn_id.get_eq_iff f).2 (hm f), ← (m'.keptIn_id.get_eq_iff f).2 (hm' f), id_eq_iff.2 h]

/-- A module that cannot be read out is not refused for its address. -/
theorem readout_ne_duplicateSurface (m : ModuleDescription α) (id : GeometryId) :
    m.readout ≠ .error (.duplicateSurface id) := by
  intro h
  rw [readout] at h
  cases hcells : Segmentation.ofHalfLengths m.segmentation.binsX m.segmentation.binsY m.segmentation.halfX
      m.segmentation.halfY with
  | error c =>
    rw [hcells] at h
    nomatch h
  | ok cells =>
    rw [hcells] at h
    change (ReadoutModule.make cells _ _ _).mapError GeometryError.module = _ at h
    cases hmodule : ReadoutModule.make cells (0.5 * m.thickness) m.readoutDirection m.lorentzAngle with
    | error c =>
      rw [hmodule] at h
      nomatch h
    | ok r =>
      rw [hmodule] at h
      nomatch h

/-- A module that cannot be built is not refused for its address. -/
theorem build_ne_duplicateSurface (m : ModuleDescription α) (id : GeometryId) :
    m.build ≠ .error (.duplicateSurface id) := by
  intro h
  rcases m.build_cases with ⟨-, hbuild⟩ | ⟨-, e, hreadout, hbuild⟩ | ⟨-, r, -, hbuild⟩
  · nomatch h.symm.trans hbuild
  · have he : e = .duplicateSurface id := Except.error.inj (hbuild.symm.trans h)
    exact m.readout_ne_duplicateSurface id (he ▸ hreadout)
  · nomatch h.symm.trans hbuild

/-- A module that is not read out can always be built. -/
theorem build_of_not_digitize {m : ModuleDescription α} (h : m.digitize = false) :
    m.build = .ok ⟨m.id, .planar m.element⟩ := by
  rcases m.build_cases with ⟨-, hbuild⟩ | ⟨hdigitize, -⟩ | ⟨hdigitize, -⟩
  · exact hbuild
  · nomatch h.symm.trans hdigitize
  · nomatch h.symm.trans hdigitize

end ModuleDescription

namespace Detector

/-- A module is refused for its address exactly if it is the first module with a fault and an earlier one is aliased. -/
theorem firstFault_duplicateSurface_iff {modules : List (ModuleDescription α)} {id : GeometryId} :
    FirstFault modules (.duplicateSurface id) ↔ ∃ before m after, modules = before ++ m :: after ∧ Loadable before ∧
      (∃ s, m.build = .ok s) ∧ m.id = id ∧ ∃ m' ∈ before, m'.Aliases m := by
  constructor
  · rintro ⟨before, m, after, hmodules, hbefore, hfault⟩
    cases hfault with
    | unbuildable h => exact absurd h (m.build_ne_duplicateSurface id)
    | taken h hid =>
      obtain ⟨m', hm', hid'⟩ := List.mem_map.1 hid
      exact ⟨before, m, after, hmodules, hbefore, ⟨_, h⟩, rfl, m', hm', ModuleDescription.id_eq_iff.1 hid'⟩
  · rintro ⟨before, m, after, hmodules, hbefore, ⟨s, hs⟩, rfl, m', hm', halias⟩
    refine ⟨before, m, after, hmodules, hbefore, .taken hs ?_⟩
    exact List.mem_map.2 ⟨m', hm', ModuleDescription.id_eq_iff.2 halias⟩

/-! ## Described detectors -/

/-- The modules that a text describes. -/
def modulesOfText? (text : String) : Option (List (ModuleDescription Float)) := (Json.parse text).bind modulesOfJson?

/-- A text is loaded if the modules that it describes are. -/
theorem ofText_eq_ok_iff {text : String} {d : Detector Float} :
    ofText text = .ok d ↔ ∃ modules, modulesOfText? text = some modules ∧ ofModules modules = .ok d := by
  rw [ofText, ← modulesOfText?]
  cases modulesOfText? text with
  | none => simp
  | some modules =>
    simp only [Option.some.injEq, exists_eq_left']
    cases ofModules modules <;> simp [Except.mapError]

/-- A text is refused as invalid if the modules that it describes are. -/
theorem ofText_eq_invalid_iff {text : String} {e : GeometryError Float} :
    ofText text = .error (.invalid e) ↔ ∃ modules, modulesOfText? text = some modules ∧ ofModules modules = .error e := by
  rw [ofText, ← modulesOfText?]
  cases modulesOfText? text with
  | none => simp
  | some modules =>
    simp only [Option.some.injEq, exists_eq_left']
    cases ofModules modules <;> simp [Except.mapError]

/-- A loaded detector has a surface for each described module, and its address keeps the declared numbers as far as they fit.
A module is refused for its address exactly if its numbers, as far as they fit, are those of an earlier module, so never
because of a module with other numbers if the numbers of both fit. -/
theorem ofText_keeps_numbers_that_fit (text : String) :
    (∀ d, ofText text = .ok d → ∃ modules, modulesOfText? text = some modules ∧
      ∀ m ∈ modules, ∃ s ∈ d.surfaces, m.build = .ok s ∧ d.find? m.id = some s ∧ m.KeptIn s.id) ∧
    (∀ id, ofText text = .error (.invalid (.duplicateSurface id)) ↔
      ∃ before m after, modulesOfText? text = some (before ++ m :: after) ∧ Loadable before ∧ (∃ s, m.build = .ok s) ∧
        m.id = id ∧ ∃ m' ∈ before, m'.Aliases m ∧
          (m'.Fits → m.Fits → m'.volume = m.volume ∧ m'.layer = m.layer ∧ m'.sensitive = m.sensitive)) := by
  constructor
  · intro d hd
    obtain ⟨modules, htext, hmodules⟩ := ofText_eq_ok_iff.1 hd
    obtain ⟨h, rfl⟩ := ofModules_eq_ok_iff.1 hmodules
    refine ⟨modules, htext, fun m hm => ?_⟩
    obtain ⟨s, hs, hfind⟩ := h.holds.find?_id m hm
    refine ⟨s, mem_surfaces_iff.2 ⟨m.id, hfind⟩, hs, hfind, ?_⟩
    rw [ModuleDescription.id_of_build hs]
    exact m.keptIn_id
  · intro id
    rw [ofText_eq_invalid_iff]
    constructor
    · rintro ⟨modules, htext, hmodules⟩
      obtain ⟨before, m, after, rfl, hbefore, hbuild, hid, m', hm', halias⟩ :=
        firstFault_duplicateSurface_iff.1 (ofModules_eq_error_iff.1 hmodules)
      refine ⟨before, m, after, htext, hbefore, hbuild, hid, m', hm', halias, fun hfits' hfits => ?_⟩
      have hnumber := halias.eq_of_fits hfits' hfits
      exact ⟨congrFun hnumber .volume, congrFun hnumber .layer, congrFun hnumber .sensitive⟩
    · rintro ⟨before, m, after, htext, hbefore, hbuild, hid, m', hm', halias, -⟩
      refine ⟨_, htext, ofModules_eq_error_iff.2 (firstFault_duplicateSurface_iff.2 ?_)⟩
      exact ⟨before, m, after, rfl, hbefore, hbuild, hid, m', hm', halias⟩

/-- One module, in a volume with a number that its field cannot hold. -/
def wideText : String := "\x7b\"modules\":[\x7b\"volume\":256,\"digitize\":false\x7d]\x7d"

/-- The module of `wideText` is loaded, but no surface is in its volume. -/
theorem wide_volume_is_reduced :
    ∃ d m, modulesOfText? wideText = some [m] ∧ m.volume = 256 ∧ ofText wideText = .ok d ∧
      ∀ s ∈ d.surfaces, s.id.get .volume ≠ m.volume := by
  have hread : (modulesOfText? wideText).map (List.map fun m => (m.volume, m.digitize)) = some [(256, false)] := by
    decide +kernel
  obtain ⟨modules, htext, hmodules⟩ := Option.map_eq_some_iff.1 hread
  obtain ⟨m, rfl, hm⟩ := List.map_eq_singleton_iff.1 hmodules
  obtain ⟨hvolume, hdigitize⟩ := Prod.mk.inj hm
  have hload : Loadable [m] := .singleton (ModuleDescription.build_of_not_digitize hdigitize)
  refine ⟨_, m, htext, hvolume, ofText_eq_ok_iff.2 ⟨_, htext, ofModules_of_loadable hload⟩, fun s hs => ?_⟩
  obtain ⟨m', hm', hs'⟩ := mem_built.1 (hload.holds.surfaces_perm.mem_iff.1 hs)
  have hwide : ¬m.volume ≤ GeometryField.volume.maxValue := by
    rw [hvolume]
    decide +kernel
  rw [ModuleDescription.id_of_build hs', List.mem_singleton.1 hm']
  exact fun hkept => hwide ((m.keptIn_id.get_eq_iff .volume).1 hkept)

/-- Two modules, in volumes with numbers that differ above what the field can hold. -/
def aliasedText : String :=
  "\x7b\"modules\":[\x7b\"volume\":1,\"digitize\":false\x7d,\x7b\"volume\":257,\"digitize\":false\x7d]\x7d"

/-- The second module of `aliasedText` is refused as a duplicate of the first. -/
theorem aliased_volumes_are_duplicates :
    ∃ m m', modulesOfText? aliasedText = some [m, m'] ∧ m.volume = 1 ∧ m'.volume = 257 ∧
      ofText aliasedText = .error (.invalid (.duplicateSurface m'.id)) := by
  have hread : (modulesOfText? aliasedText).map (List.map fun m => (m.volume, m.layer, m.sensitive, m.digitize)) =
      some [(1, 0, 0, false), (257, 0, 0, false)] := by
    decide +kernel
  obtain ⟨modules, htext, hmodules⟩ := Option.map_eq_some_iff.1 hread
  obtain ⟨m, rest, rfl, hm, hrest⟩ := List.map_eq_cons_iff.1 hmodules
  obtain ⟨m', rfl, hm'⟩ := List.map_eq_singleton_iff.1 hrest
  simp only [Prod.mk.injEq] at hm hm'
  obtain ⟨hvolume, hlayer, hsensitive, hdigitize⟩ := hm
  obtain ⟨hvolume', hlayer', hsensitive', hdigitize'⟩ := hm'
  have halias : m'.id = m.id := by
    refine ModuleDescription.id_eq_iff.2 fun f => ?_
    cases f <;> simp [ModuleDescription.number, GeometryField.capacity, *]
  have hload : Loadable [m] := .singleton (ModuleDescription.build_of_not_digitize hdigitize)
  have hfault : Fault [m] m' (.duplicateSurface m'.id) :=
    .taken (ModuleDescription.build_of_not_digitize hdigitize') (by simpa using halias)
  exact ⟨m, m', htext, hvolume, hvolume', ofText_eq_invalid_iff.2 ⟨_, htext, ofModules_of_fault hload hfault []⟩⟩

/-- The numbers of modules are not always kept, and do not always tell modules apart. -/
theorem wide_numbers_are_reduced :
    (∃ d m, modulesOfText? wideText = some [m] ∧ m.volume = 256 ∧ ofText wideText = .ok d ∧
      ∀ s ∈ d.surfaces, s.id.get .volume ≠ m.volume) ∧
    ∃ m m', modulesOfText? aliasedText = some [m, m'] ∧ m.volume = 1 ∧ m'.volume = 257 ∧
      ofText aliasedText = .error (.invalid (.duplicateSurface m'.id)) :=
  ⟨wide_volume_is_reduced, aliased_volumes_are_duplicates⟩

end Detector

end DetectorReadout
