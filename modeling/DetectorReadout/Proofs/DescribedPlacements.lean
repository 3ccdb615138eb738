import Mathlib.Tactic.NormNum
import DetectorReadout.Proofs.ElementHistory
import DetectorReadout.Proofs.ModuleAddresses
import DetectorReadout.Proofs.Rigidity

/-!
# The placements of described modules

A module stands where its description says: at the last placement that is given for the epoch, and at its nominal one if none
is given (`ModuleDescription.placement_of_build`). The described axes are taken as they are. Read as exact numbers, such a
placement is rigid if the axes are of length one and at right angles, and otherwise it is not
(`Detector.rigid_iff_axes_orthonormal`): a description with longer axes is loaded, and the distances of points shrink in the
frame of its module (`Detector.stretched_axes_are_accepted`).
-/

namespace DetectorReadout

/-! ## Exact values -/

/-- The real number that a binary64 number stands for; zero for those that are not finite. -/
noncomputable def Binary64.toReal (x : Float) : ℝ :=
  let (m, e) := magnitude x.toModel.unpack
  if x < 0 then -(m * ((2 : Nat) : ℝ) ^ e) else m * ((2 : Nat) : ℝ) ^ e

theorem Binary64.toReal_of_not_neg {x : Float} {m : Nat} {e : Int} (hsign : ¬ x < 0)
    (hmag : magnitude x.toModel.unpack = (m, e)) : toReal x = m * 2 ^ e := by
  rw [toReal, hmag, ← Nat.cast_ofNat (R := ℝ)]
  exact if_neg hsign

theorem Binary64.toReal_zero : toReal 0 = 0 := by
  rw [toReal_of_not_neg (m := 0) (e := 0) (by decide +kernel) (by decide +kernel), Nat.cast_zero, zero_mul]

theorem Binary64.toReal_one : toReal 1 = 1 := by
  rw [toReal_of_not_neg (m := 2 ^ 52) (e := -52) (by decide +kernel) (by decide +kernel)]
  norm_num

section Map

variable {α β : Type} (f : α → β)

/-- The vector with every component replaced. -/
def Vec3.map (u : Vec3 α) : Vec3 β := ⟨f u.x, f u.y, f u.z⟩

/-- The matrix with every entry replaced. -/
def Mat3.map (m : Mat3 α) : Mat3 β := ⟨m.col1.map f, m.col2.map f, m.col3.map f⟩

/-- The placement with every number replaced. -/
def Placement.map (p : Placement α) : Placement β := ⟨⟨p.rotation.map f, p.center.map f⟩⟩

end Map

/-- The placement with the exact values of its numbers. -/
noncomputable def Placement.exact (p : Placement Float) : Placement ℝ := p.map Binary64.toReal

/-- A surface of its own where the surface stands under the given conditions, with exact numbers. -/
noncomputable def Surface.exact (s : Surface Float) (ctx : GeometryContext) : Surface ℝ :=
  ⟨s.id, .fixed (s.placement ctx).exact⟩

/-- The axes of the frame itself are of length one and at right angles. -/
theorem Mat3.orthonormal_map_identity : ((identity : Mat3 Float).map Binary64.toReal).Orthonormal := by
  have hmap : (identity : Mat3 Float).map Binary64.toReal = (identity : Mat3 ℝ) := by
    change (⟨⟨Binary64.toReal 1, Binary64.toReal 0, Binary64.toReal 0⟩,
      ⟨Binary64.toReal 0, Binary64.toReal 1, Binary64.toReal 0⟩,
      ⟨Binary64.toReal 0, Binary64.toReal 0, Binary64.toReal 1⟩⟩ : Mat3 ℝ) = _
    rw [Binary64.toReal_zero, Binary64.toReal_one]
    rfl
  rw [hmap]
  exact orthonormal_identity

/-! ## Descriptions -/

/-- The described axes, if there are any, are of length one and at right angles. -/
def PlacementDescription.AxesOrthonormal (d : PlacementDescription Float) : Prop :=
  ∀ axes, d.rotation = some axes → (axes.map Binary64.toReal).Orthonormal

/-- The axes of a placement are the described ones, or those of the global frame. -/
theorem PlacementDescription.orthonormal_build_iff (d : PlacementDescription Float) :
    d.build.exact.rotation.Orthonormal ↔ d.AxesOrthonormal := by
  unfold build AxesOrthonormal
  cases d.rotation with
  | none => exact iff_of_true Mat3.orthonormal_map_identity nofun
  | some axes =>
    constructor
    · intro h axes' haxes
      cases haxes
      exact h
    · exact fun h => h axes rfl

namespace ModuleDescription

section

variable {α : Type} [Scalar α]

/-- The placement that is described for an epoch: the last one given for it, or the nominal one. -/
def placementAt (m : ModuleDescription α) (epoch : UInt64) : PlacementDescription α :=
  ((m.alignments.filter fun a => a.epoch = epoch).getLast?.map AlignmentDescription.placement).getD m.placement

/-- Of the placements that are given for an epoch, the last one counts. -/
theorem placement_foldl_withAlignment (alignments : List (AlignmentDescription α)) (e : PlanarElement α)
    (ctx : GeometryContext) :
    (alignments.foldl (fun e a => e.withAlignment a.epoch a.placement.build) e).placement ctx =
      ((alignments.filter fun a => a.epoch = ctx.epoch).getLast?.map fun a => a.placement.build).getD
        (e.placement ctx) := by
  have hlast := lastGiven?_of_test (fun a : AlignmentDescription α => a.epoch = ctx.epoch) (fun a => a.placement.build) alignments
  simp only [decide_eq_true_eq] at hlast
  rw [← hlast]
  exact read_foldl_write (fun e : PlanarElement α => e.placement ctx)
    (fun e a => e.placement_withAlignment a.epoch a.placement.build ctx) alignments e

theorem placement_element (m : ModuleDescription α) (ctx : GeometryContext) :
    m.element.placement ctx = (m.placementAt ctx.epoch).build := by
  rw [element, placement_foldl_withAlignment, placementAt]
  cases (m.alignments.filter fun a => a.epoch = ctx.epoch).getLast? with
  | none => rfl
  | some a => rfl

/-- A module stands where its description says. -/
theorem placement_of_build {m : ModuleDescription α} {s : Surface α} (h : m.build = .ok s) (ctx : GeometryContext) :
    s.placement ctx = (m.placementAt ctx.epoch).build := by
  rcases m.build_cases with ⟨-, hbuild⟩ | ⟨-, e, -, hbuild⟩ | ⟨-, r, -, hbuild⟩
  · cases h.symm.trans hbuild
    exact m.placement_element ctx
  · nomatch h.symm.trans hbuild
  · cases h.symm.trans hbuild
    exact m.placement_element ctx

end

end ModuleDescription

namespace Detector

/-- Every surface of a loaded detector is that of a described module. -/
theorem exists_module_of_ofText {text : String} {d : Detector Float} (h : ofText text = .ok d) :
    ∃ modules, modulesOfText? text = some modules ∧ ∀ s ∈ d.surfaces, ∃ m ∈ modules, m.build = .ok s := by
  obtain ⟨modules, htext, hmodules⟩ := ofText_eq_ok_iff.1 h
  obtain ⟨hload, rfl⟩ := ofModules_eq_ok_iff.1 hmodules
  exact ⟨modules, htext, fun s hs => mem_built.1 (hload.holds.surfaces_perm.mem_iff.1 hs)⟩

/-- Under exact arithmetic, take any surface of a loaded detector and any epoch. Its placement keeps the distances of points,
and gives every direction the length one, exactly if the axes that its description has for this epoch are of length one and at
right angles to each other. A description is not checked for that. -/
theorem rigid_iff_axes_orthonormal {text : String} {d : Detector Float} (h : ofText text = .ok d) :
    ∃ modules, modulesOfText? text = some modules ∧ ∀ s ∈ d.surfaces, ∃ m ∈ modules, m.build = .ok s ∧ ∀ ctx,
      ((s.placement ctx).exact.KeepsDistances ↔ (m.placementAt ctx.epoch).AxesOrthonormal) ∧
      ((s.exact ctx).KeepsUnits ctx ↔ (m.placementAt ctx.epoch).AxesOrthonormal) := by
  obtain ⟨modules, htext, hbuilt⟩ := exists_module_of_ofText h
  refine ⟨modules, htext, fun s hs => ?_⟩
  obtain ⟨m, hm, hbuild⟩ := hbuilt s hs
  refine ⟨m, hm, hbuild, fun ctx => ?_⟩
  have haxes := (m.placementAt ctx.epoch).orthonormal_build_iff
  rw [← ModuleDescription.placement_of_build hbuild] at haxes
  exact ⟨(Placement.keepsDistances_iff _).trans haxes, (Surface.keepsUnits_iff _ ctx).trans haxes⟩

/-- A single module that is not read out is loaded. -/
theorem exists_surface_of_single {text : String} {m : ModuleDescription Float} (htext : modulesOfText? text = some [m])
    (hdigitize : m.digitize = false) : ∃ d s, ofText text = .ok d ∧ s ∈ d.surfaces ∧ m.build = .ok s := by
  have hbuild := ModuleDescription.build_of_not_digitize hdigitize
  have hload : Loadable [m] := .singleton hbuild
  refine ⟨_, _, ofText_eq_ok_iff.2 ⟨_, htext, ofModules_of_loadable hload⟩, ?_, hbuild⟩
  exact hload.holds.surfaces_perm.mem_iff.2 (mem_built.2 ⟨m, List.mem_singleton_self m, hbuild⟩)

/-- One module with the axes of the global frame in another order, and in epoch 1 with a first axis of length zero. -/
def collapsingText : String :=
  "\x7b\"modules\":[\x7b\"rotation\":[[0,1,0],[0,0,1],[1,0,0]],\"digitize\":false,\"alignments\":[\x7b\"epoch\":1," ++
    "\"translation\":[0,0,1],\"rotation\":[[0,0,0],[0,1,0],[0,0,1]]\x7d]\x7d]\x7d"

/-- The module of `collapsingText` is rigid at its nominal placement and not in epoch 1. -/
theorem rigid_iff_axes_orthonormal_collapsing :
    ∃ d s, ofText collapsingText = .ok d ∧ s ∈ d.surfaces ∧ (s.placement ⟨0⟩).exact.KeepsDistances ∧
      ¬ (s.placement ⟨1⟩).exact.KeepsDistances ∧ ¬ (s.exact ⟨1⟩).KeepsUnits ⟨1⟩ := by
  have hread : (modulesOfText? collapsingText).map (List.map fun m =>
      (m.digitize, (m.placementAt 0).rotation, (m.placementAt 1).rotation)) =
      some [(false, some ⟨⟨0, 1, 0⟩, ⟨0, 0, 1⟩, ⟨1, 0, 0⟩⟩, some ⟨⟨0, 0, 0⟩, ⟨0, 1, 0⟩, ⟨0, 0, 1⟩⟩)] := by
    decide +kernel
  obtain ⟨modules, htext, hmodules⟩ := Option.map_eq_some_iff.1 hread
  obtain ⟨m, rfl, hm⟩ := List.map_eq_singleton_iff.1 hmodules
  simp only [Prod.mk.injEq] at hm
  obtain ⟨hdigitize, hnominal, haligned⟩ := hm
  obtain ⟨d, s, hload, hs, -⟩ := exists_surface_of_single htext hdigitize
  obtain ⟨modules', htext', hrigid⟩ := rigid_iff_axes_orthonormal hload
  cases htext.symm.trans htext'
  obtain ⟨m', hm', -, hiff⟩ := hrigid s hs
  cases List.mem_singleton.1 hm'
  have hturned : (m.placementAt 0).AxesOrthonormal := by
    intro axes haxes
    cases hnominal.symm.trans haxes
    constructor <;> simp [Mat3.map, Vec3.map, Vec3.dot, Binary64.toReal_zero, Binary64.toReal_one]
  have hflat : ¬ (m.placementAt 1).AxesOrthonormal := by
    intro h
    have hunit := (h _ haligned).unit1
    simp [Mat3.map, Vec3.map, Vec3.dot, Binary64.toReal_zero] at hunit
  exact ⟨d, s, hload, hs, (hiff ⟨0⟩).1.2 hturned, fun h => hflat ((hiff ⟨1⟩).1.1 h), fun h => hflat ((hiff ⟨1⟩).2.1 h)⟩

/-- One module with axes of length two. -/
def stretchedText : String :=
  "\x7b\"modules\":[\x7b\"rotation\":[[2,0,0],[0,2,0],[0,0,2]],\"digitize\":false\x7d]\x7d"

/-- The module of `stretchedText` is loaded. In its frame, points are half as far from each other, and directions are half
as long. -/
theorem stretched_axes_are_accepted :
    ∃ d s, ofText stretchedText = .ok d ∧ s ∈ d.surfaces ∧ ¬ (s.placement ⟨0⟩).exact.KeepsDistances ∧
      ¬ (s.exact ⟨0⟩).KeepsUnits ⟨0⟩ := by
  have hread : (modulesOfText? stretchedText).map (List.map fun m => (m.digitize, (m.placementAt 0).rotation)) =
      some [(false, some ⟨⟨2, 0, 0⟩, ⟨0, 2, 0⟩, ⟨0, 0, 2⟩⟩)] := by
    decide +kernel
  obtain ⟨modules, htext, hmodules⟩ := Option.map_eq_some_iff.1 hread
  obtain ⟨m, rfl, hm⟩ := List.map_eq_singleton_iff.1 hmodules
  obtain ⟨hdigitize, hrotation⟩ := Prod.mk.inj hm
  obtain ⟨d, s, hload, hs, hbuild⟩ := exists_surface_of_single htext hdigitize
  have htwo : Binary64.toReal 2 = 2 := by
    rw [Binary64.toReal_of_not_neg (m := 2 ^ 52) (e := -51) (by decide +kernel) (by decide +kernel)]
    norm_num
  have hlong : ¬ (s.placement ⟨0⟩).exact.rotation.Orthonormal := by
    rw [ModuleDescription.placement_of_build hbuild, PlacementDescription.orthonormal_build_iff]
    intro h
    have hunit := (h _ hrotation).unit1
    simp only [Mat3.map, Vec3.map, Vec3.dot, htwo, Binary64.toReal_zero] at hunit
    norm_num at hunit
  refine ⟨d, s, hload, hs, ?_, ?_⟩
  · rwa [Placement.keepsDistances_iff]
  · rwa [Surface.keepsUnits_iff]

end Detector

end DetectorReadout
