import DetectorReadout.Proofs.ClusterPosition
import DetectorReadout.Proofs.DigitizerOrder
import DetectorReadout.Proofs.FrameChange

/-!
# Moving detector and hits together

Under exact arithmetic, what the readout sees of a hit depends only on where the hit is relative to its surface: if surface and hit
are moved together, rigidly, the hit stays as it is in the frame of the surface (`Surface.toLocal_of_moved`). The motion drops out of
position and direction because the way to the moved frame begins with the way back of the motion (`Affine.inverse_comp_point`), and
out of the normalisation of the direction because it keeps lengths (`Mat3.Orthonormal.unit_apply`). The steps of a track are a function
of what the readout sees, so the clusters of moved hits are those of the hits, on moved surfaces (`Digitizer.digitize_of_moved`).
-/

namespace DetectorReadout

/-! ## Motions -/

section Motion

variable {α : Type} [Scalar α]

/-- The matrix that applies first `n`, then `m`. -/
def Mat3.mul (m n : Mat3 α) : Mat3 α := ⟨m.apply n.col1, m.apply n.col2, m.apply n.col3⟩

/-- The map that applies first `g`, then `f`. -/
def Affine.comp (f g : Affine α) : Affine α := ⟨f.linear.mul g.linear, f.point g.shift⟩

/-- The placement of a surface that is moved. -/
def Placement.moved (p : Placement α) (motion : Affine α) : Placement α := ⟨motion.comp p.toGlobal⟩

/-- The element moved in all epochs. -/
def PlanarElement.moved (e : PlanarElement α) (motion : Affine α) : PlanarElement α :=
  { e with
    nominal := e.nominal.moved motion
    aligned := e.aligned.map fun _ p => p.moved motion }

/-- What a surface stands on, moved. -/
def Support.moved (motion : Affine α) : Support α → Support α
  | .fixed p => .fixed (p.moved motion)
  | .planar e => .planar (e.moved motion)
  | .passive e => .passive { e with placement := e.placement.moved motion }

/-- The surface moved with what it stands on. -/
def Surface.moved (s : Surface α) (motion : Affine α) : Surface α := { s with support := s.support.moved motion }

/-- The hit moved with its surface: the point by the motion, and the direction without the shift. -/
def Hit.moved (h : Hit α) (motion : Affine α) : Hit α :=
  { h with
    surface := h.surface.moved motion
    position := motion.point h.position
    direction := motion.vector h.direction }

/-- The same measurement on the moved surface. -/
def Cluster.moved (c : Cluster α) (motion : Affine α) : Cluster α := { c with surface := c.surface.moved motion }

/-- The element stands at the moved placement in every epoch. -/
theorem PlanarElement.placement_moved (e : PlanarElement α) (motion : Affine α) (ctx : GeometryContext) :
    (e.moved motion).placement ctx = (e.placement ctx).moved motion := by
  rw [placement, placement, moved, Std.ExtTreeMap.getElem?_map, Option.getD_map]

/-- The surface stands at the moved placement under all conditions. -/
theorem Surface.placement_moved (s : Surface α) (motion : Affine α) (ctx : GeometryContext) :
    (s.moved motion).placement ctx = (s.placement ctx).moved motion := by
  obtain ⟨id, support⟩ := s
  cases support with
  | fixed p => rfl
  | planar e => exact e.placement_moved motion ctx
  | passive e => rfl

/-- A motion does not touch the readout. -/
theorem Surface.readout?_moved (s : Surface α) (motion : Affine α) : (s.moved motion).readout? = s.readout? := by
  obtain ⟨id, support⟩ := s
  cases support <;> rfl

/-- A motion does not touch the thickness. -/
theorem Surface.thickness?_moved (s : Surface α) (motion : Affine α) : (s.moved motion).thickness? = s.thickness? := by
  obtain ⟨id, support⟩ := s
  cases support <;> rfl

end Motion

namespace Mat3

variable (m n : Mat3 ℝ)

theorem mul_apply (v : Vec3 ℝ) : (m.mul n).apply v = m.apply (n.apply v) := by
  apply Vec3.ext <;> simp only [mul, apply, Vec3.add_components, Vec3.mul_components] <;> ring

theorem det_mul : (m.mul n).det = m.det * n.det := by
  simp only [det, mul, apply, Vec3.dot, Vec3.cross, Vec3.add_components, Vec3.mul_components]
  ring

variable {m}

/-- Turning a vector and making it a unit vector may be exchanged. -/
theorem Orthonormal.unit_apply (h : m.Orthonormal) (v : Vec3 ℝ) : (m.apply v).unit = m.apply v.unit := by
  have hlength : (m.apply v).length = v.length := isometric_iff.2 h v
  by_cases hv : v = 0
  · rw [hv, apply_zero, Vec3.unit_zero, apply_zero]
  · have hne : m.apply v ≠ 0 := by
      rwa [← Vec3.length_pos_iff, hlength, Vec3.length_pos_iff]
    rw [Vec3.unit_of_ne_zero hv, Vec3.unit_of_ne_zero hne, hlength, apply_mul]

end Mat3

namespace Affine

variable {f g : Affine ℝ}

theorem comp_vector (f g : Affine ℝ) (v : Vec3 ℝ) : (f.comp g).vector v = f.vector (g.vector v) :=
  f.linear.mul_apply g.linear v

theorem comp_point (f g : Affine ℝ) (x : Vec3 ℝ) : (f.comp g).point x = f.point (g.point x) := by
  have hpoint : (f.comp g).point x =
      (f.linear.mul g.linear).apply x + (f.linear.apply g.shift + f.shift) := rfl
  rw [hpoint, Mat3.mul_apply, point, point, Mat3.apply_add]
  apply Vec3.ext <;> simp [add_assoc]

variable (hf : f.linear.det ≠ 0) (hg : g.linear.det ≠ 0)

include hf hg

theorem det_comp_ne_zero : (f.comp g).linear.det ≠ 0 := by
  rw [comp, Mat3.det_mul]
  exact mul_ne_zero hf hg

/-- The way back of two maps begins with the way back of the second. -/
theorem inverse_comp_point (x : Vec3 ℝ) : (f.comp g).inverse.point (f.point x) = g.inverse.point x := by
  have hx : f.point x = (f.comp g).point (g.inverse.point x) := by
    rw [comp_point, point_inverse_point hg]
  rw [hx, inverse_point_point (det_comp_ne_zero hf hg)]

theorem inverse_comp_vector (v : Vec3 ℝ) : (f.comp g).inverse.vector (f.vector v) = g.inverse.vector v := by
  have hv : f.vector v = (f.comp g).vector (g.inverse.vector v) := by
    rw [comp_vector, vector_inverse_vector hg]
  rw [hv, inverse_vector_vector (det_comp_ne_zero hf hg)]

end Affine

namespace SortedMultimap

variable {κ ν μ : Type}

/-- The map with every value replaced. -/
def mapValues (m : SortedMultimap κ ν) (f : ν → μ) : SortedMultimap κ μ := ⟨m.entries.map fun e => (e.1, f e.2)⟩

@[simp]
theorem toList_mapValues (m : SortedMultimap κ ν) (f : ν → μ) :
    (m.mapValues f).toList = m.toList.map fun e => (e.1, f e.2) :=
  Array.toList_map

end SortedMultimap

/-- Replacing the values keeps a stable sort. -/
theorem StableSort.mapValues {κ ν μ : Type} [LE κ] [DecidableEq κ] {log sorted : List (κ × ν)} (h : StableSort log sorted)
    (f : ν → μ) : StableSort (log.map fun e => (e.1, f e.2)) (sorted.map fun e => (e.1, f e.2)) := by
  have hmap := h.filterMap (f := fun e => some (e.1, f e.2)) (by rintro x y ⟨⟩; rfl)
  rwa [List.filterMap_eq_map'] at hmap

/-! ## Hits that are seen alike -/

namespace Digitizer

variable {α : Type} [Scalar α] (d : Digitizer α) (ctx : GeometryContext)

/-- What a hit gives is told by the readout of its surface, the thickness below and the way the surface sees the hit. -/
theorem cluster?_eq_bind (id : GeometryId) (hit : Hit α) :
    d.cluster? ctx id hit = hit.surface.readout?.bind fun module => hit.surface.thickness?.bind fun thickness =>
      let seen := hit.surface.toLocal ctx hit.position hit.direction
      Cluster.ofSteps hit.surface module thickness ⟨id.value, [hit.particle]⟩ hit.time
        (d.stepper ctx module seen.position seen.direction) := by
  unfold cluster? Surface.readout? Surface.thickness?
  cases hit.surface.support with
  | fixed p => rfl
  | planar e => rfl
  | passive e => rfl

/-- Two hits of one particle at one time, on surfaces that are read out alike and see them alike, give the same cluster, each on
its own surface. -/
theorem cluster?_of_alike (id : GeometryId) {hit hit' : Hit α} {f : Surface α → Surface α}
    (hsurface : hit'.surface = f hit.surface) (hreadout : hit'.surface.readout? = hit.surface.readout?)
    (hthickness : hit'.surface.thickness? = hit.surface.thickness?)
    (hseen : hit'.surface.toLocal ctx hit'.position hit'.direction = hit.surface.toLocal ctx hit.position hit.direction)
    (htime : hit'.time = hit.time) (hparticle : hit'.particle = hit.particle) :
    d.cluster? ctx id hit' = (d.cluster? ctx id hit).map fun c => { c with surface := f c.surface } := by
  rw [cluster?_eq_bind, cluster?_eq_bind, hreadout, hthickness, hseen, htime, hparticle, hsurface, Option.map_bind]
  congr 1
  funext module
  rw [Function.comp_apply, Option.map_bind]
  congr 1
  funext thickness
  rw [Function.comp_apply, Cluster.ofSteps, Cluster.ofSteps, Option.map_map]
  rfl

variable {d ctx}

/-- If every hit of a collection is replaced by one that gives the replaced cluster, then so are the clusters of the collection. -/
theorem digitize_mapValues {hits : Hits α} {f : Hit α → Hit α} {g : Cluster α → Cluster α}
    (h : ∀ e ∈ SortedMultimap.toList hits, d.cluster? ctx e.1 (f e.2) = (d.cluster? ctx e.1 e.2).map g) :
    d.digitize ctx (SortedMultimap.mapValues hits f) = SortedMultimap.mapValues (d.digitize ctx hits) g := by
  have hlog : ((SortedMultimap.toList hits).map fun e => (e.1, f e.2)).filterMap (d.keyedCluster? ctx) =
      ((SortedMultimap.toList hits).filterMap (d.keyedCluster? ctx)).map fun e => (e.1, g e.2) := by
    rw [List.filterMap_map, List.map_filterMap]
    refine List.filterMap_congr fun e he => ?_
    rw [Function.comp_apply, keyedCluster?, keyedCluster?, h e he, Option.map_map, Option.map_map]
    rfl
  have hmapped := d.stableSort_digitizeEntries ctx (SortedMultimap.toList (SortedMultimap.mapValues hits f))
  rw [SortedMultimap.toList_mapValues, hlog] at hmapped
  have hsort := (d.stableSort_digitizeEntries ctx (SortedMultimap.toList hits)).mapValues g
  refine SortedMultimap.toList_inj ?_
  rw [SortedMultimap.toList_mapValues, digitize, digitize, SortedMultimap.toList_mapValues]
  exact hmapped.unique hsort

end Digitizer

/-! ## Under a rigid motion -/

section Rigid

variable {motion : Affine ℝ} (hmotion : motion.linear.Orthonormal) {ctx : GeometryContext}

include hmotion

/-- A surface at the moved placement sees of the moved position and direction what the surface sees of the original ones. -/
theorem Surface.toLocal_of_moved {s s' : Surface ℝ} (hdet : (s.placement ctx).rotation.det ≠ 0)
    (hmoved : s'.placement ctx = (s.placement ctx).moved motion) (position direction : Vec3 ℝ) :
    s'.toLocal ctx (motion.point position) (motion.vector direction) = s.toLocal ctx position direction := by
  have hposition : ((s.placement ctx).moved motion).pointToLocal (motion.point position) =
      (s.placement ctx).pointToLocal position := Affine.inverse_comp_point hmotion.det_ne_zero hdet position
  have hunit : (motion.vector direction).unit = motion.vector direction.unit := hmotion.unit_apply direction
  have hdirection : ((s.placement ctx).moved motion).vectorToLocal (motion.vector direction.unit) =
      (s.placement ctx).vectorToLocal direction.unit := Affine.inverse_comp_vector hmotion.det_ne_zero hdet direction.unit
  rw [toLocal, toLocal, hmoved, hposition, hunit, hdirection]

namespace Digitizer

/-- A moved hit gives the cluster of the hit, on the moved surface. -/
theorem cluster?_of_moved (d : Digitizer ℝ) (id : GeometryId) {hit : Hit ℝ}
    (hdet : (hit.surface.placement ctx).rotation.det ≠ 0) :
    d.cluster? ctx id (hit.moved motion) = (d.cluster? ctx id hit).map fun c => c.moved motion := by
  refine d.cluster?_of_alike ctx id (f := fun s => s.moved motion) rfl (hit.surface.readout?_moved motion)
    (hit.surface.thickness?_moved motion) ?_ rfl rfl
  exact Surface.toLocal_of_moved hmotion hdet (hit.surface.placement_moved motion ctx) hit.position hit.direction

/-- Moving all hits moves the surfaces of their clusters and changes nothing else about them. -/
theorem digitize_of_moved (d : Digitizer ℝ) {hits : Hits ℝ}
    (hdet : ∀ e ∈ SortedMultimap.toList hits, (e.2.surface.placement ctx).rotation.det ≠ 0) :
    d.digitize ctx (SortedMultimap.mapValues hits fun h => h.moved motion) =
      SortedMultimap.mapValues (d.digitize ctx hits) fun c => c.moved motion :=
  digitize_mapValues fun e he => d.cluster?_of_moved hmotion e.1 (hdet e he)

end Digitizer

end Rigid

/-- The length of a direction does not matter for the steps. -/
theorem PlanarStepper.steps_unit (s : PlanarStepper ℝ) (module : ReadoutModule ℝ) (position : Vec2 ℝ) (direction : Vec3 ℝ) :
    s.steps module position direction.unit = s.steps module position direction := by
  unfold steps
  rw [Vec3.unit_unit]

namespace Digitizer

/-- Under exact arithmetic, only the placement of a hit relative to its surface matters. Let a rigid motion take a surface whose axes
have a determinant to another place, and a hit on it with it. At its new place the surface sees of the moved position and direction
what it saw of the original ones. So a digitizer, whatever its stepper is, makes of moved hits the clusters of the hits on the moved
surfaces, with the same addresses, positions, channels and cells. -/
theorem only_relative_placement_matters {motion : Affine ℝ} (hmotion : motion.linear.Orthonormal) (ctx : GeometryContext) :
    (∀ (axes : Mat3 ℝ) (shift : Vec3 ℝ), axes.det ≠ 0 → ∀ s s' : Surface ℝ, s.placement ctx = .ofRotation axes shift →
      s'.placement ctx = .ofRotation (motion.linear.mul axes) (motion.point shift) → ∀ position direction,
        s'.toLocal ctx (motion.point position) (motion.vector direction) = s.toLocal ctx position direction) ∧
      ∀ (d : Digitizer ℝ) (hits : Hits ℝ),
        (∀ e ∈ SortedMultimap.toList hits, (e.2.surface.placement ctx).rotation.det ≠ 0) →
          d.digitize ctx (SortedMultimap.mapValues hits fun h => h.moved motion) =
            SortedMultimap.mapValues (d.digitize ctx hits) fun c => c.moved motion := by
  refine ⟨fun axes shift hdet s s' hs hs' => ?_, fun d _ => d.digitize_of_moved hmotion⟩
  refine Surface.toLocal_of_moved hmotion ?_ ?_
  · rw [hs]
    exact hdet
  · rw [hs, hs']
    rfl

/-- A module whose normal is the global x axis, and a slanted track through it, turned about the z axis and shifted: the module sees
the hit at the same place as before, and gives the same cluster on the moved surface. -/
theorem only_relative_placement_matters_turned :
    let motion : Affine ℝ := ⟨⟨⟨3 / 5, 4 / 5, 0⟩, ⟨-4 / 5, 3 / 5, 0⟩, ⟨0, 0, 1⟩⟩, ⟨1, 2, 3⟩⟩
    let upright : Placement ℝ := .ofRotation ⟨⟨0, 1, 0⟩, ⟨0, 0, 1⟩, ⟨1, 0, 0⟩⟩ ⟨30, 0, 0⟩
    let element : PlanarElement ℝ := ⟨1, upright, 2, ∅, some quarteredSquare⟩
    let hit : Hit ℝ := ⟨⟨⟨1⟩, .planar element⟩, ⟨30, 0, 1 / 20⟩, ⟨2, 2, 1⟩, 1, 0, 0⟩
    let hits : Hits ℝ := ⟨#[(⟨1⟩, hit)]⟩
    let d : Digitizer ℝ := ⟨"hits", "clusters", (⟨1 / 10⟩ : PlanarStepper ℝ).toStepper, {}, by decide, by decide⟩
    let moved := hit.moved motion
    moved.position = ⟨19, 26, 61 / 20⟩ ∧
      (moved.surface.toLocal {} moved.position moved.direction).position = ⟨0, 1 / 20⟩ ∧
      ∃ c, SortedMultimap.toList (d.digitize {} hits) = [(⟨1⟩, c)] ∧
        SortedMultimap.toList (d.digitize {} (SortedMultimap.mapValues hits fun h => h.moved motion)) =
          [(⟨1⟩, c.moved motion)] := by
  intro motion upright element hit hits d moved
  have hmotion : motion.linear.Orthonormal := by constructor <;> norm_num [motion, Vec3.dot]
  have haxes : upright.rotation.Orthonormal := by
    constructor <;> norm_num [upright, Placement.rotation, Placement.ofRotation, Vec3.dot]
  have hplacement : hit.surface.placement {} = upright := by
    simp [hit, Surface.placement, element, PlanarElement.placement]
  -- The module sees the track of the square sensor.
  have hseen : hit.surface.toLocal {} hit.position hit.direction = ⟨⟨0, 1 / 20⟩, (⟨2, 1, 2⟩ : Vec3 ℝ).unit⟩ := by
    have hposition : hit.position = upright.pointToGlobal ⟨0, 1 / 20, 0⟩ := by
      apply Vec3.ext <;> norm_num [hit, upright, Placement.pointToGlobal, Affine.point, Mat3.apply, Placement.ofRotation]
    have hdirection : hit.direction = upright.rotation.apply ⟨2, 1, 2⟩ := by
      apply Vec3.ext <;> norm_num [hit, upright, Placement.rotation, Mat3.apply, Placement.ofRotation]
    have hround := Placement.roundTrips_of_det_ne_zero haxes.det_ne_zero
    rw [Surface.toLocal, hplacement, hposition, hround.pointToLocal_pointToGlobal, hdirection, haxes.unit_apply]
    exact congrArg (LocalHit.mk _) (hround.vectorToLocal_vectorToGlobal _)
  have hcluster : (d.cluster? {} ⟨1⟩ hit).isSome := by
    have h0 : (0 : ℝ) < 1 / 10 := by norm_num
    refine (d.cluster?_isSome_iff {} ⟨1⟩ hit).2 ⟨element, quarteredSquare, rfl, rfl, ?_⟩
    rw [hseen]
    change (centroid ((⟨1 / 10⟩ : PlanarStepper ℝ).steps quarteredSquare ⟨0, 1 / 20⟩ (⟨2, 1, 2⟩ : Vec3 ℝ).unit)).isSome = true
    rw [PlanarStepper.steps_unit, isSome_centroid_iff]
    exact PlanarStepper.sum_length_steps_pos h0 ((PlanarStepper.steps_ne_nil_iff h0).2 ⟨_, PlanarStepper.clippedTrack?_slanted⟩)
  obtain ⟨c, hc⟩ := Option.isSome_iff_exists.1 hcluster
  have hlist : SortedMultimap.toList (d.digitize {} hits) = [(⟨1⟩, c)] := by
    have hperm := (d.stableSort_digitizeEntries {} (SortedMultimap.toList hits)).perm
    have hone : (SortedMultimap.toList hits).filterMap (d.keyedCluster? {}) = [(⟨1⟩, c)] := by
      simp [hits, SortedMultimap.toList, keyedCluster?, hc]
    rw [hone] at hperm
    exact List.perm_singleton.1 hperm
  have hdet : ∀ e ∈ SortedMultimap.toList hits, (e.2.surface.placement {}).rotation.det ≠ 0 := by
    intro e he
    cases List.mem_singleton.1 he
    rw [hplacement]
    exact haxes.det_ne_zero
  obtain ⟨hlocal, hdigitize⟩ := only_relative_placement_matters hmotion {}
  have hmoved : moved.surface.placement {} = upright.moved motion := by
    rw [← hplacement]
    exact hit.surface.placement_moved motion {}
  refine ⟨?_, ?_, c, hlist, ?_⟩
  · apply Vec3.ext <;> norm_num [moved, hit, Hit.moved, motion, Affine.point, Mat3.apply]
  · have hsame := hlocal _ _ haxes.det_ne_zero hit.surface moved.surface hplacement hmoved hit.position hit.direction
    exact congrArg LocalHit.position (hsame.trans hseen)
  · rw [hdigitize d hits hdet, SortedMultimap.toList_mapValues, hlist]
    rfl

end Digitizer

end DetectorReadout
