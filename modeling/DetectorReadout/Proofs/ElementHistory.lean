import DetectorReadout.LocalHit
import DetectorReadout.Proofs.LastGiven

/-!
# How an element comes about

An element is made at a nominal placement. After that it may be read out by a module and realigned for single epochs, in any
order and as often as one likes. In every epoch it stands at the placement that was given last for this epoch, or at the nominal
one if none was (`PlanarElement.placement_made`). What is given for other epochs is out of sight: an element and what one epoch
sees of it (`PlanarElement.seenIn`) stand at the same place in this epoch, and are read out in the same way.
-/

namespace DetectorReadout

variable {α : Type} [Scalar α]

namespace PlanarElement

/-- A step in the making of an element. -/
inductive Change (α : Type) [Scalar α] where
  /-- The element is read out by a module. -/
  | readout (module : ReadoutModule α)
  /-- The element stands at a placement in one epoch. -/
  | alignment (epoch : UInt64) (placement : Placement α)

/-- The element behind one more change. -/
def apply (e : PlanarElement α) : Change α → PlanarElement α
  | .readout module => e.withReadout module
  | .alignment epoch p => e.withAlignment epoch p

/-- The placement that a change gives for an epoch. -/
def Change.placement? (epoch : UInt64) : Change α → Option (Placement α)
  | .readout _ => none
  | .alignment epoch' p => if epoch' = epoch then some p else none

/-- The element that is made at a nominal placement, behind a sequence of changes. -/
def made (identifier : UInt64) (nominal : Placement α) (thickness : α) (changes : List (Change α)) : PlanarElement α :=
  changes.foldl apply { identifier := identifier, nominal := nominal, thickness := thickness }

/-- The placement of one epoch is in force in this epoch and in no other. -/
theorem placement_withAlignment (e : PlanarElement α) (epoch : UInt64) (p : Placement α) (ctx : GeometryContext) :
    (e.withAlignment epoch p).placement ctx = (if epoch = ctx.epoch then some p else none).getD (e.placement ctx) := by
  rw [placement, withAlignment, Std.ExtTreeMap.getElem?_insert, placement]
  by_cases h : epoch = ctx.epoch
  · rw [if_pos h, if_pos (Std.LawfulEqCmp.compare_eq_iff_eq.2 h)]
    rfl
  · rw [if_neg h, if_neg fun heq => h (Std.LawfulEqCmp.compare_eq_iff_eq.1 heq)]
    rfl

theorem placement_apply (e : PlanarElement α) (c : Change α) (ctx : GeometryContext) :
    (e.apply c).placement ctx = (c.placement? ctx.epoch).getD (e.placement ctx) := by
  cases c with
  | readout module => rfl
  | alignment epoch p => exact e.placement_withAlignment epoch p ctx

/-- An element stands at the placement that was given last for the epoch, or at its nominal one. -/
theorem placement_made (identifier : UInt64) (nominal : Placement α) (thickness : α) (changes : List (Change α))
    (ctx : GeometryContext) : (made identifier nominal thickness changes).placement ctx =
      (lastGiven? (Change.placement? ctx.epoch) changes).getD nominal :=
  read_foldl_write (fun e : PlanarElement α => e.placement ctx) (fun e c => e.placement_apply c ctx) changes _

/-! ## What one epoch sees -/

/-- The element without the placements of all other epochs. -/
def seenIn (e : PlanarElement α) (epoch : UInt64) : PlanarElement α :=
  { e with aligned := e.aligned[epoch]?.elim ∅ fun p => (∅ : Std.ExtTreeMap UInt64 (Placement α)).insert epoch p }

/-- Nothing that an epoch sees of an element is changed by the placement of another one. -/
theorem seenIn_withAlignment (e : PlanarElement α) {epoch epoch' : UInt64} (h : epoch' ≠ epoch) (p : Placement α) :
    (e.withAlignment epoch' p).seenIn epoch = e.seenIn epoch := by
  have hlook : (e.aligned.insert epoch' p)[epoch]? = e.aligned[epoch]? := by
    rw [Std.ExtTreeMap.getElem?_insert, if_neg fun heq => h (Std.LawfulEqCmp.compare_eq_iff_eq.1 heq)]
  rw [seenIn, seenIn, withAlignment, hlook]

/-- An element and what an epoch sees of it stand at the same place. -/
theorem placement_seenIn (e : PlanarElement α) (ctx : GeometryContext) :
    (e.seenIn ctx.epoch).placement ctx = e.placement ctx := by
  rw [placement, placement, seenIn]
  cases e.aligned[ctx.epoch]? with
  | none => simp
  | some p => simp

end PlanarElement

/-- What a surface stands on, without the placements of all other epochs. -/
def Support.seenIn (epoch : UInt64) : Support α → Support α
  | .fixed p => .fixed p
  | .planar e => .planar (e.seenIn epoch)
  | .passive e => .passive e

namespace Surface

/-- The surface without the placements of all other epochs. -/
def seenIn (s : Surface α) (epoch : UInt64) : Surface α := { s with support := s.support.seenIn epoch }

theorem placement_seenIn (s : Surface α) (ctx : GeometryContext) :
    (s.seenIn ctx.epoch).placement ctx = s.placement ctx := by
  obtain ⟨id, support⟩ := s
  cases support with
  | fixed p => rfl
  | planar e => exact e.placement_seenIn ctx
  | passive e => rfl

theorem readout?_seenIn (s : Surface α) (epoch : UInt64) : (s.seenIn epoch).readout? = s.readout? := by
  obtain ⟨id, support⟩ := s
  cases support <;> rfl

theorem thickness?_seenIn (s : Surface α) (epoch : UInt64) : (s.seenIn epoch).thickness? = s.thickness? := by
  obtain ⟨id, support⟩ := s
  cases support <;> rfl

/-- A hit looks the same from a surface and from what the epoch sees of it. -/
theorem toLocal_seenIn (s : Surface α) (ctx : GeometryContext) (position direction : Vec3 α) :
    (s.seenIn ctx.epoch).toLocal ctx position direction = s.toLocal ctx position direction := by
  rw [toLocal, toLocal, placement_seenIn]

end Surface

end DetectorReadout
