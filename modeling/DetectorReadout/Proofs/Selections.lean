import DetectorReadout.Event.ParticleSelector
import DetectorReadout.Proofs.FloatOrder
import Mathlib.Algebra.Ring.Nat
import Mathlib.Data.List.Forall2

/-!
# Selections one after the other

A selector keeps what lies in its windows, so two selectors one after the other keep what lies in the intersections of their windows
(`SelectorConfig.admits_meet`), in either order. That holds of the particles and of the vertices: a vertex that the first selector
empties is also empty after both (`Vertex.selection_selection`).
-/

namespace DetectorReadout

/-! ## Windows -/

namespace Window

/-- The intersection of two windows, which may be empty. -/
def meet (v w : Window) : Window := ⟨Scalar.max v.lower w.lower, Scalar.min v.upper w.upper⟩

/-- The window lies in another one. -/
def Within (v w : Window) : Prop := w.lower ≤ v.lower ∧ v.upper ≤ w.upper

instance (v w : Window) : Decidable (v.Within w) := inferInstanceAs (Decidable (_ ∧ _))

variable {v w : Window} {x : Float}

theorem contains_iff : w.contains x ↔ w.lower ≤ x ∧ x < w.upper := decide_eq_true_iff

/-- A value is in the intersection of two windows whose ends are numbers exactly if it is in both. -/
theorem contains_meet (hv : v.lower ≤ v.upper) (hw : w.lower ≤ w.upper) :
    (v.meet w).contains x = (v.contains x && w.contains x) := by
  obtain ⟨hvl, hvu⟩ := Binary64.isNaN_of_le hv
  obtain ⟨hwl, hwu⟩ := Binary64.isNaN_of_le hw
  rw [Bool.eq_iff_iff, Bool.and_eq_true, contains_iff, contains_iff, contains_iff, meet, Binary64.max_le_iff hvl hwl,
    Binary64.lt_min_iff hvu hwu]
  exact and_and_and_comm

/-- What is in a window is in every wider one. -/
theorem Within.contains (h : v.Within w) (hx : v.contains x) : w.contains x := by
  obtain ⟨hlower, hupper⟩ := contains_iff.1 hx
  exact contains_iff.2 ⟨Binary64.le_trans h.1 hlower, Binary64.lt_of_lt_of_le hupper h.2⟩

theorem upTo_meet (r s : Float) : (upTo r).meet (upTo s) = upTo (Scalar.min r s) := by
  have hzero : Scalar.max (0 : Float) 0 = 0 := by decide
  rw [meet, upTo, upTo, hzero]
  rfl

/-- Whether each value lies in the window at its place. -/
def holdAll (windows : List (String × Window)) (values : List Float) : Bool :=
  (windows.zip values).all fun (w, x) => w.2.contains x

theorem holdAll_cons (v : String × Window) (vs : List (String × Window)) (x : Float) (xs : List Float) :
    holdAll (v :: vs) (x :: xs) = (v.2.contains x && holdAll vs xs) :=
  rfl

/-- The intersections of two lists of windows hold what both lists hold. -/
theorem holdAll_zipWith_meet {vs ws : List (String × Window)} (hlength : vs.length = ws.length)
    (hvs : ∀ v ∈ vs, v.2.lower ≤ v.2.upper) (hws : ∀ w ∈ ws, w.2.lower ≤ w.2.upper) (xs : List Float) :
    holdAll (List.zipWith (fun v w => (v.1, v.2.meet w.2)) vs ws) xs = (holdAll vs xs && holdAll ws xs) := by
  induction vs generalizing ws xs with
  | nil =>
    obtain rfl := List.length_eq_zero_iff.1 hlength.symm
    rfl
  | cons v vs ih =>
    cases ws with
    | nil => cases hlength
    | cons w ws =>
      cases xs with
      | nil => rfl
      | cons x xs =>
        obtain ⟨hv, hvs⟩ := List.forall_mem_cons.1 hvs
        obtain ⟨hw, hws⟩ := List.forall_mem_cons.1 hws
        rw [List.zipWith_cons_cons, holdAll_cons, holdAll_cons, holdAll_cons, contains_meet hv hw,
          ih (Nat.succ.inj hlength) hvs hws]
        ac_rfl

/-- Wider windows hold everything that the narrower ones hold. -/
theorem holdAll_of_within {vs ws : List (String × Window)} (h : List.Forall₂ (fun v w => v.2.Within w.2) vs ws)
    {xs : List Float} (hvs : holdAll vs xs) : holdAll ws xs := by
  induction h generalizing xs with
  | nil => rfl
  | cons hvw _ ih =>
    cases xs with
    | nil => rfl
    | cons x xs =>
      rw [holdAll_cons, Bool.and_eq_true] at hvs ⊢
      exact ⟨hvw.contains hvs.1, ih hvs.2⟩

end Window

/-! ## Configurations -/

namespace SelectorConfig

variable {c d : SelectorConfig}

/-- Whether a particle lies in all windows of a configuration and has a charge that it accepts. -/
def admits (c : SelectorConfig) (a : Particle) : Bool :=
  Window.holdAll c.windows a.windowQuantities && (c.keepNeutral || a.charge != 0)

theorem admits_iff (a : Particle) : c.admits a ↔
    (∀ p ∈ c.windows.zip a.windowQuantities, p.1.2.contains p.2) ∧ (c.keepNeutral ∨ a.charge != 0) := by
  rw [admits, Window.holdAll, Bool.and_eq_true, List.all_eq_true, Bool.or_eq_true]

/-- The intersections of the windows of two configurations. Neutral particles are kept if both keep them. -/
def meet (c d : SelectorConfig) : SelectorConfig where
  input := c.input
  output := c.output
  rhoMax := Scalar.min c.rhoMax d.rhoMax
  absZMax := Scalar.min c.absZMax d.absZMax
  phi := c.phi.meet d.phi
  eta := c.eta.meet d.eta
  absEta := c.absEta.meet d.absEta
  pt := c.pt.meet d.pt
  keepNeutral := c.keepNeutral && d.keepNeutral

theorem windows_meet : (c.meet d).windows = List.zipWith (fun v w => (v.1, v.2.meet w.2)) c.windows d.windows := by
  simp only [windows, meet, List.zipWith_cons_cons, List.zipWith_nil_left, Window.upTo_meet]

/-- The intersection of two configurations admits what both admit. -/
theorem admits_meet (hc : ∀ w ∈ c.windows, w.2.lower ≤ w.2.upper) (hd : ∀ w ∈ d.windows, w.2.lower ≤ w.2.upper)
    (a : Particle) : (c.meet d).admits a = (c.admits a && d.admits a) := by
  have hlength : c.windows.length = d.windows.length := rfl
  have hcharge : (c.keepNeutral && d.keepNeutral || a.charge != 0) =
      ((c.keepNeutral || a.charge != 0) && (d.keepNeutral || a.charge != 0)) :=
    Bool.or_and_distrib_right ..
  rw [admits, windows_meet, Window.holdAll_zipWith_meet hlength hc hd]
  show (_ && (c.keepNeutral && d.keepNeutral || a.charge != 0)) = _
  rw [hcharge, admits, admits]
  ac_rfl

/-- Every window of the configuration lies in that of another one, which keeps neutral particles if this one does. -/
def Narrows (c d : SelectorConfig) : Prop :=
  List.Forall₂ (fun v w => v.2.Within w.2) c.windows d.windows ∧ (c.keepNeutral → d.keepNeutral)

instance (c d : SelectorConfig) : Decidable (c.Narrows d) := inferInstanceAs (Decidable (_ ∧ _))

/-- What a configuration admits, every wider one admits too. -/
theorem Narrows.admits (h : c.Narrows d) {a : Particle} (ha : c.admits a) : d.admits a := by
  rw [SelectorConfig.admits, Bool.and_eq_true, Bool.or_eq_true] at ha ⊢
  exact ⟨Window.holdAll_of_within h.1 ha.1, ha.2.imp_left h.2⟩

end SelectorConfig

/-! ## Vertices -/

namespace Vertex

/-- The particles at a vertex, those that go in first. -/
def particles (v : Vertex) : List Particle := v.incoming ++ v.outgoing

/-- The vertex with the particles of one kind. -/
def restrictTo (keep : Particle → Bool) (v : Vertex) : Vertex :=
  { v with incoming := v.incoming.filter keep, outgoing := v.outgoing.filter keep }

/-- The vertices with the particles of one kind, without those that are left empty. -/
def selection (keep : Particle → Bool) (vertices : List Vertex) : List Vertex :=
  (vertices.map (restrictTo keep)).filter fun v => !v.isEmpty

variable (p q : Particle → Bool) (v : Vertex)

theorem isEmpty_eq : v.isEmpty = v.particles.isEmpty := by
  rw [particles, Vertex.isEmpty, Bool.eq_iff_iff]
  simp

theorem particleCount_eq : v.particleCount = v.particles.length := List.length_append.symm

theorem particles_restrictTo : (v.restrictTo p).particles = v.particles.filter p :=
  (List.filter_append ..).symm

theorem restrictTo_restrictTo : (v.restrictTo q).restrictTo p = v.restrictTo fun a => p a && q a := by
  simp only [restrictTo, List.filter_filter]

/-- A vertex without particles stays without. -/
theorem isEmpty_restrictTo (h : v.isEmpty) : (v.restrictTo p).isEmpty := by
  rw [isEmpty_eq, List.isEmpty_iff] at h
  rw [isEmpty_eq, particles_restrictTo, h]
  rfl

theorem selection_cons (vertices : List Vertex) :
    selection p (v :: vertices) =
      if (v.restrictTo p).isEmpty then selection p vertices else v.restrictTo p :: selection p vertices := by
  rw [selection, List.map_cons, List.filter_cons]
  by_cases h : (v.restrictTo p).isEmpty <;> simp [h, selection]

/-- Two selections one after the other keep the particles that both keep. A vertex that the first one empties has no such
particles. -/
theorem selection_selection (vertices : List Vertex) :
    selection p (selection q vertices) = selection (fun a => p a && q a) vertices := by
  induction vertices with
  | nil => rfl
  | cons v vertices ih =>
    rw [selection_cons q, selection_cons _ v]
    by_cases hempty : (v.restrictTo q).isEmpty
    · have hboth : (v.restrictTo fun a => p a && q a).isEmpty := by
        rw [← restrictTo_restrictTo]
        exact isEmpty_restrictTo p _ hempty
      rw [if_pos hempty, if_pos hboth, ih]
    · rw [if_neg hempty, selection_cons, restrictTo_restrictTo, ih]

/-- The sources of a selection are the vertices with a particle that is kept. -/
theorem selection_eq_map (vertices : List Vertex) :
    selection p vertices = (vertices.filter fun v => v.particles.any p).map (restrictTo p) := by
  rw [selection, List.filter_map]
  congr 2
  funext v
  show (!(v.restrictTo p).isEmpty) = _
  rw [isEmpty_eq, particles_restrictTo, Bool.eq_iff_iff]
  simp

/-- The particles of a selection are those that are kept. -/
theorem flatMap_selection (vertices : List Vertex) :
    (selection p vertices).flatMap particles = (vertices.flatMap particles).filter p := by
  induction vertices with
  | nil => rfl
  | cons v vertices ih =>
    rw [List.flatMap_cons, List.filter_append, ← ih, ← particles_restrictTo, selection_cons]
    split
    · next hempty =>
      rw [isEmpty_eq, List.isEmpty_iff] at hempty
      rw [hempty, List.nil_append]
    · exact List.flatMap_cons

/-- A vertex is another one with the particles of one kind: it is the same interaction, and of those that go in and of those that
come out the particles of this kind are left, in their order. -/
structure RestrictsTo (keep : Particle → Bool) (v w : Vertex) : Prop where
  position : w.position = v.position
  time : w.time = v.time
  process : w.process = v.process
  incoming : w.incoming = v.incoming.filter keep
  outgoing : w.outgoing = v.outgoing.filter keep

/-- Vertices are the selection of the particles of one kind from other vertices. -/
structure IsSelection (keep : Particle → Bool) (vertices selected : List Vertex) : Prop where
  /-- In their order, they are the restrictions of the vertices with such a particle. -/
  sources : List.Forall₂ (RestrictsTo keep) (vertices.filter fun v => v.particles.any keep) selected
  /-- None of them is empty. -/
  nonempty : ∀ v ∈ selected, v.particles ≠ []
  /-- The particles of this kind are all there, in their order. -/
  particles : selected.flatMap particles = (vertices.flatMap particles).filter keep
  /-- There are as many particles in them as there are such particles. -/
  count : (selected.map particleCount).sum = (vertices.flatMap Vertex.particles).countP keep

theorem isSelection_selection (vertices : List Vertex) : IsSelection p vertices (selection p vertices) where
  sources := by
    rw [selection_eq_map, List.forall₂_map_right_iff]
    exact List.forall₂_same.2 fun v _ => ⟨rfl, rfl, rfl, rfl, rfl⟩
  nonempty v hv := by
    have hfull := (List.mem_filter.1 hv).2
    rw [isEmpty_eq] at hfull
    simpa using hfull
  particles := flatMap_selection p vertices
  count := by
    have hcounts : particleCount = fun v : Vertex => v.particles.length := funext particleCount_eq
    rw [List.countP_eq_length_filter, ← flatMap_selection, List.length_flatMap, hcounts]

end Vertex

namespace ParticleSelector

open Vertex

variable (A B : ParticleSelector)

/-- A selector keeps what its configuration admits. -/
theorem keeps_eq : A.keeps = A.config.admits := rfl

/-- A particle with a quantity outside its window is not kept. -/
theorem keeps_eq_false {a : Particle} {w : String × Window} {x : Float}
    (hmem : (w, x) ∈ A.config.windows.zip a.windowQuantities) (hout : w.2.contains x = false) : A.keeps a = false := by
  rw [keeps_eq, Bool.eq_false_iff]
  intro hkept
  have hin : w.2.contains x = true := ((SelectorConfig.admits_iff a).1 hkept).1 (w, x) hmem
  exact Bool.false_ne_true (hout.symm.trans hin)

theorem select_eq (vertices : List Vertex) : A.select vertices = selection A.keeps vertices := rfl

/-- Selections compose as the intersections of their windows. Two selectors may be applied in either order, and together they select
the particles in the intersections of their windows, which are charged unless both selectors keep neutral ones; here a window holds
its lower end and not its upper one. So selecting again changes nothing, and a selector with narrower windows takes only particles
that the wider one takes too. -/
theorem selections_intersect (vertices : List Vertex) :
    (∀ (c : SelectorConfig) (a : Particle), c.admits a ↔
        (∀ p ∈ c.windows.zip a.windowQuantities, p.1.2.lower ≤ p.2 ∧ p.2 < p.1.2.upper) ∧
          (c.keepNeutral ∨ a.charge != 0)) ∧
      A.select (B.select vertices) = B.select (A.select vertices) ∧
      IsSelection (A.config.meet B.config).admits vertices (A.select (B.select vertices)) ∧
      IsSelection A.config.admits vertices (A.select vertices) ∧
      A.select (A.select vertices) = A.select vertices ∧
      (A.config.Narrows B.config → A.select (B.select vertices) = A.select vertices ∧
        ((A.select vertices).flatMap particles).Sublist ((B.select vertices).flatMap particles)) := by
  have hboth : (fun a => A.keeps a && B.keeps a) = (A.config.meet B.config).admits :=
    funext fun a => (SelectorConfig.admits_meet A.windows_le B.windows_le a).symm
  refine ⟨fun c a => ?_, ?_, ?_, ?_, ?_, fun hnarrows => ⟨?_, ?_⟩⟩
  · simp only [SelectorConfig.admits_iff, Window.contains_iff]
  · simp only [select_eq, selection_selection, Bool.and_comm]
  · rw [select_eq, select_eq, selection_selection, hboth]
    exact isSelection_selection ..
  · rw [select_eq, keeps_eq]
    exact isSelection_selection ..
  · simp only [select_eq, selection_selection, Bool.and_self]
  · have hand : (fun a => A.keeps a && B.keeps a) = A.keeps :=
      funext fun a => Bool.and_eq_left_iff_imp.2 hnarrows.admits
    rw [select_eq, select_eq, selection_selection, hand]
    rfl
  · rw [select_eq, select_eq, flatMap_selection, flatMap_selection]
    exact List.monotone_filter_right _ fun a => hnarrows.admits

/-- Of a soft and a hard particle the narrower of two selectors keeps the hard one only, and the vertex without it is dropped.
Applying the wider selector first changes nothing about that. -/
theorem selections_intersect_momentum_windows :
    let A : ParticleSelector :=
      ⟨{ input := "in", output := "hard", pt := ⟨1, 2⟩, keepNeutral := false }, by decide, by decide, by decide⟩
    let B : ParticleSelector := ⟨{ input := "in", output := "all", pt := ⟨0.25, 8⟩ }, by decide, by decide, by decide⟩
    let particle : Float → Particle := fun x => ⟨0, 0, ⟨x, 0, 0⟩, 0.1, -1, 0, 0⟩
    let vertices : List Vertex := [⟨0, 0, [particle 0.5], [], 1⟩, ⟨0, 0, [particle 1.5], [particle 0.5], 2⟩]
    A.config.Narrows B.config ∧ A.config.admits (particle 1.5) = true ∧ A.config.admits (particle 0.5) = false ∧
      A.select (B.select vertices) = [⟨0, 0, [particle 1.5], [], 2⟩] ∧
      ((A.select vertices).flatMap particles).Sublist ((B.select vertices).flatMap particles) := by
  intro A B particle vertices
  have hnarrows : A.config.Narrows B.config := by decide
  have hhard : A.config.admits (particle 1.5) = true := by decide +kernel
  have hsoft : A.config.admits (particle 0.5) = false := by decide +kernel
  obtain ⟨-, -, -, -, -, hnarrow⟩ := A.selections_intersect B vertices
  obtain ⟨hselect, hsub⟩ := hnarrow hnarrows
  refine ⟨hnarrows, hhard, hsoft, ?_, hsub⟩
  rw [hselect, select_eq, keeps_eq]
  simp [vertices, selection, restrictTo, Vertex.isEmpty, hhard, hsoft]

end ParticleSelector

end DetectorReadout
