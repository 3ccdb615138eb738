import DetectorReadout.Proofs.FloatSigns
import DetectorReadout.Proofs.Selections

/-!
# Windows that are not set

A window that is not set holds every number except positive infinity (`SelectorConfig.default_contains_iff`), because no window holds
its upper end. So a selector rejects a particle because of such a window exactly if the quantity is positive infinity or not a
number. The first happens: the size of the pseudorapidity is infinite along the beam.
-/

namespace DetectorReadout

namespace Window

open Binary64

variable {x : Float}

theorem all_contains_iff : all.contains x ↔ x.isNaN = false ∧ x ≠ infinity := by
  rw [contains_iff]
  show -infinity ≤ x ∧ x < infinity ↔ _
  rw [neg_infinity_le_iff, lt_infinity_iff, and_iff_right_of_imp And.left]

theorem nonnegative_contains_iff (hx : Unsigned x) : nonnegative.contains x ↔ x.isNaN = false ∧ x ≠ infinity := by
  rw [contains_iff]
  show 0 ≤ x ∧ x < infinity ↔ _
  rw [lt_infinity_iff, and_iff_right_of_imp fun h => hx.zero_le h.1]

/-- Where names tell windows apart, a window that stands in two lists with the same names stands at the same place in both. -/
theorem mem_zip_of_names {vs ws : List (String × Window)} {xs : List Float} (hnames : vs.map Prod.fst = ws.map Prod.fst)
    (hnodup : (vs.map Prod.fst).Nodup) {w : String × Window} {x : Float} (hv : (w, x) ∈ vs.zip xs) (hw : w ∈ ws) :
    (w, x) ∈ ws.zip xs := by
  induction vs generalizing ws xs with
  | nil => cases hv
  | cons v vs ih =>
    cases ws with
    | nil => cases hw
    | cons u ws =>
      cases xs with
      | nil => cases hv
      | cons y xs =>
        rw [List.map_cons, List.map_cons, List.cons.injEq] at hnames
        rw [List.map_cons, List.nodup_cons] at hnodup
        rw [List.zip_cons_cons, List.mem_cons] at hv ⊢
        rcases hv with hv | hv <;> rcases List.mem_cons.1 hw with rfl | hw
        · exact .inl (congrArg (w, ·) (Prod.ext_iff.1 hv).2)
        · obtain ⟨rfl, -⟩ := Prod.ext_iff.1 hv
          exact absurd (hnames.2 ▸ List.mem_map_of_mem hw) hnodup.1
        · exact absurd (hnames.1 ▸ List.mem_map_of_mem (List.of_mem_zip hv).1) hnodup.1
        · exact .inr (ih hnames.2 hnodup.2 hv hw)

end Window

namespace SelectorConfig

open Binary64

/-- A window that is not set holds its quantity unless that is positive infinity or not a number. -/
theorem default_contains_iff (a : Particle) : ∀ p ∈ ({} : SelectorConfig).windows.zip a.windowQuantities,
    (p.1.2.contains p.2 ↔ p.2.isNaN = false ∧ p.2 ≠ infinity) := by
  simp only [windows, Particle.windowQuantities, List.zip_cons_cons, List.zip_nil_right, List.forall_mem_cons]
  -- Distances, sizes and momenta have no minus sign; the angle and the pseudorapidity have windows without a lower end.
  exact ⟨Window.nonnegative_contains_iff (unsigned_hypotenuse _ _), Window.nonnegative_contains_iff (unsigned_abs _),
    Window.all_contains_iff, Window.all_contains_iff, Window.nonnegative_contains_iff (unsigned_abs _),
    Window.nonnegative_contains_iff (unsigned_hypotenuse _ _), List.forall_mem_nil _⟩

theorem contains_iff_of_unset (c : SelectorConfig) (a : Particle) {w : String × Window} {x : Float}
    (h : (w, x) ∈ c.windows.zip a.windowQuantities) (hunset : w ∈ ({} : SelectorConfig).windows) :
    w.2.contains x ↔ x.isNaN = false ∧ x ≠ infinity := by
  have hnames : c.windows.map Prod.fst = ({} : SelectorConfig).windows.map Prod.fst := rfl
  have hnodup : (c.windows.map Prod.fst).Nodup := by
    rw [hnames]
    decide
  exact default_contains_iff a (w, x) (Window.mem_zip_of_names hnames hnodup h hunset)

end SelectorConfig

namespace ParticleSelector

variable (s : ParticleSelector) (a : Particle)

/-- A selector keeps a particle exactly if each quantity whose window is set lies in it, each of the others is a number and not
positive infinity, and the particle is charged unless neutral ones are kept. -/
theorem keeps_iff_windows_set : s.keeps a ↔
    (∀ p ∈ s.config.windows.zip a.windowQuantities, p.1 ∉ ({} : SelectorConfig).windows → p.1.2.contains p.2) ∧
      (∀ p ∈ s.config.windows.zip a.windowQuantities, p.1 ∈ ({} : SelectorConfig).windows →
        p.2.isNaN = false ∧ p.2 ≠ Binary64.infinity) ∧
      (s.config.keepNeutral ∨ a.charge != 0) := by
  rw [keeps_eq, SelectorConfig.admits_iff, ← and_assoc, ← forall₂_and]
  refine and_congr_left fun _ => forall₂_congr fun p hp => ?_
  by_cases hunset : p.1 ∈ ({} : SelectorConfig).windows
  · rw [s.config.contains_iff_of_unset a hp hunset]
    simp [hunset]
  · simp [hunset]

/-- Not even the selector without any window that is set keeps a particle that moves exactly along the beam, whatever
`Float.atan2 0 0` is: its pseudorapidity is infinite, and the other quantities are numbers. -/
theorem beam_particle_is_rejected :
    let s : ParticleSelector := ⟨{ input := "in", output := "out" }, by decide, by decide, by decide⟩
    let a : Particle := ⟨0, 0, ⟨0, 0, 1⟩, 0, 0, 0, 0⟩
    s.config.windows = ({} : SelectorConfig).windows ∧ s.config.keepNeutral ∧
      (∀ x ∈ [a.rho, a.position.z, a.eta, a.pt], x.isNaN = false) ∧ a.phi = Float.atan2 0 0 ∧
      a.eta = Binary64.infinity ∧ s.keeps a = false := by
  intro s a
  have hsize : (("abs_eta", Window.nonnegative), a.eta.abs) ∈ s.config.windows.zip a.windowQuantities :=
    List.mem_of_getElem? (i := 4) rfl
  have hphi : a.phi = Float.atan2 0 0 := if_neg (by decide)
  refine ⟨rfl, rfl, ?_, hphi, ?_, s.keeps_eq_false hsize ?_⟩ <;> decide +kernel

end ParticleSelector

end DetectorReadout
