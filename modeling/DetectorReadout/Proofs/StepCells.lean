import Mathlib.Data.List.Chain
import DetectorReadout.Digitization.Step
import DetectorReadout.Proofs.ChannelNumbers

/-!
# The cells of the steps of a track

The steps of a track are its pieces with neighbours in the same cell joined. Joining keeps whatever holds of every piece and
survives a prolongation (`PlanarStepper.forall_mem_join`), and no two neighbours are in the same cell behind it
(`PlanarStepper.isChain_join`). None of this looks at a coordinate, so it holds for all scalars: the cells lie in the
segmentation (`PlanarStepper.cell_lt_of_mem_steps`) and neighbours differ (`PlanarStepper.isChain_steps`).
-/

namespace DetectorReadout

/-- Whether cells have the same address. -/
theorem Cell.sameChannel_iff {α : Type} {c d : Cell α} :
    c.sameChannel d = true ↔ c.channel0 = d.channel0 ∧ c.channel1 = d.channel1 := by
  rw [sameChannel, decide_eq_true_eq]

namespace PlanarStepper

variable {α : Type} [Scalar α]

section Join

/-- What holds of all steps and survives a prolongation holds of all steps behind the joining. -/
theorem forall_mem_joinFrom {P : Step α → Prop} (hprolong : ∀ first second, P first → P (prolong first second))
    {rest : List (Step α)} (hrest : ∀ s ∈ rest, P s) {first : Step α} (hfirst : P first) :
    ∀ s ∈ joinFrom first rest, P s := by
  induction rest generalizing first with
  | nil => exact fun s hs => List.mem_singleton.1 hs ▸ hfirst
  | cons next rest ih =>
    have hrest' : ∀ s ∈ rest, P s := fun s hs => hrest s (List.mem_cons_of_mem next hs)
    unfold joinFrom
    split
    · exact ih hrest' (hprolong first next hfirst)
    · intro s hs
      rcases List.mem_cons.1 hs with rfl | hs
      · exact hfirst
      · exact ih hrest' (hrest next List.mem_cons_self) s hs

/-- What holds of all pieces and survives a prolongation holds of all steps. -/
theorem forall_mem_join {P : Step α → Prop} (hprolong : ∀ first second, P first → P (prolong first second))
    {l : List (Step α)} (h : ∀ s ∈ l, P s) : ∀ s ∈ join l, P s := by
  cases l with
  | nil => exact fun s hs => absurd hs List.not_mem_nil
  | cons first rest =>
    exact forall_mem_joinFrom hprolong (fun s hs => h s (List.mem_cons_of_mem first hs)) (h first List.mem_cons_self)

/-- Joining starts with the first cell, and no two neighbours are in the same cell behind it. -/
theorem joinFrom_eq_cons_isChain (first : Step α) (rest : List (Step α)) :
    ∃ head tail, joinFrom first rest = head :: tail ∧
      (head.cell.channel0 = first.cell.channel0 ∧ head.cell.channel1 = first.cell.channel1) ∧
      (head :: tail).IsChain fun a b => ¬ a.cell.sameChannel b.cell := by
  induction rest generalizing first with
  | nil => exact ⟨first, [], rfl, ⟨rfl, rfl⟩, List.isChain_singleton first⟩
  | cons next rest ih =>
    unfold joinFrom
    split
    case isTrue => exact ih (prolong first next)
    case isFalse hne =>
      obtain ⟨head, tail, hjoin, ⟨h0, h1⟩, hchain⟩ := ih next
      refine ⟨first, head :: tail, by rw [hjoin], ⟨rfl, rfl⟩, List.isChain_cons_cons.2 ⟨?_, hchain⟩⟩
      -- The head of the rest is in the cell of the next piece, which is not that of the first one.
      rwa [Cell.sameChannel_iff, h0, h1, ← Cell.sameChannel_iff]

/-- No two neighbouring steps are in the same cell. -/
theorem isChain_join (l : List (Step α)) : (join l).IsChain fun a b => ¬ a.cell.sameChannel b.cell := by
  cases l with
  | nil => exact List.IsChain.nil
  | cons first rest =>
    obtain ⟨head, tail, hjoin, -, hchain⟩ := joinFrom_eq_cons_isChain first rest
    rw [join, hjoin]
    exact hchain

end Join

/-- The cell of a piece lies in the segmentation. -/
theorem cell_lt_of_mem_pieces {segmentation : Segmentation α} {start delta : Vec3 α} {length : α} {cuts : List α}
    {s : Step α} (hs : s ∈ pieces segmentation start delta length cuts) :
    s.cell.channel0 < segmentation.x.bins ∧ s.cell.channel1 < segmentation.y.bins := by
  obtain ⟨⟨before, after⟩, -, rfl⟩ := List.mem_map.1 hs
  exact ⟨segmentation.x.bin_lt _, segmentation.y.bin_lt _⟩

/-- A track takes no steps, or its steps are the pieces between some cuts, joined. -/
theorem steps_cases (s : PlanarStepper α) (module : ReadoutModule α) (position : Vec2 α) (direction : Vec3 α) :
    s.steps module position direction = [] ∨
      ∃ start delta cuts, s.steps module position direction =
        join (pieces module.segmentation start delta delta.length cuts) := by
  unfold steps
  simp only
  split
  · exact Or.inl rfl
  · split
    · exact Or.inl rfl
    · exact Or.inr ⟨_, _, _, rfl⟩

variable {s : PlanarStepper α} {module : ReadoutModule α} {position : Vec2 α} {direction : Vec3 α}

/-- The cells of the steps lie in the segmentation. -/
theorem cell_lt_of_mem_steps {step : Step α} (h : step ∈ s.steps module position direction) :
    step.cell.channel0 < module.segmentation.x.bins ∧ step.cell.channel1 < module.segmentation.y.bins := by
  rcases s.steps_cases module position direction with hnil | ⟨start, delta, cuts, hjoin⟩
  · rw [hnil] at h
    exact absurd h List.not_mem_nil
  · rw [hjoin] at h
    exact forall_mem_join (fun _ _ hfirst => hfirst) (fun _ => cell_lt_of_mem_pieces) step h

variable (s module position direction)

/-- No two neighbouring steps are in the same cell. -/
theorem isChain_steps : (s.steps module position direction).IsChain fun a b => ¬ a.cell.sameChannel b.cell := by
  rcases s.steps_cases module position direction with hnil | ⟨start, delta, cuts, hjoin⟩
  · rw [hnil]
    exact List.IsChain.nil
  · rw [hjoin]
    exact isChain_join _

end PlanarStepper

end DetectorReadout
