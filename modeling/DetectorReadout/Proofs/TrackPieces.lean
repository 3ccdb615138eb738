import Mathlib.Data.List.Chain
import DetectorReadout.Proofs.ExactScalars
import DetectorReadout.Proofs.StepCells

/-!
# Pieces of a track and their joining

The pieces of a track lie back to back, and joining neighbours in the same cell keeps that: the steps begin and end where the
pieces do, their cells are some of the cells of the pieces in the same order, and under exact arithmetic the path inside a cell
is as long as it was (`PlanarStepper.sum_length_filter_join`). Altogether the pieces are as long as the track between its first
and its last cut (`PlanarStepper.sum_length_piecesFrom`).
-/

namespace DetectorReadout

namespace PlanarStepper

section Join

variable {α : Type} [Scalar α]

/-- The bins of the cell of a step. -/
def channels (s : Step α) : Nat × Nat := (s.cell.channel0, s.cell.channel1)

omit [Scalar α] in
theorem sameChannel_iff_channels_eq {s t : Step α} : s.cell.sameChannel t.cell = true ↔ channels s = channels t := by
  rw [Cell.sameChannel_iff, channels, channels, Prod.mk.injEq]

/-- Joining drops cells and adds none. -/
theorem map_channels_joinFrom_sublist (first : Step α) (rest : List (Step α)) :
    ((joinFrom first rest).map channels).Sublist ((first :: rest).map channels) := by
  induction rest generalizing first with
  | nil => exact List.Sublist.refl _
  | cons next rest ih =>
    unfold joinFrom
    split
    · -- The prolonged step has the cell of the first one, and the cell of the next one is dropped.
      exact (ih (prolong first next)).trans ((List.sublist_cons_self _ _).cons_cons _)
    · exact (ih next).cons_cons _

theorem map_channels_join_sublist (l : List (Step α)) : ((join l).map channels).Sublist (l.map channels) := by
  cases l with
  | nil => exact List.Sublist.refl _
  | cons first rest => exact map_channels_joinFrom_sublist first rest

theorem head?_joinFrom (first : Step α) (rest : List (Step α)) :
    (joinFrom first rest).head?.map Step.entry = some first.entry := by
  induction rest generalizing first with
  | nil => rfl
  | cons next rest ih =>
    unfold joinFrom
    split
    · exact ih (prolong first next)
    · rfl

theorem getLast?_joinFrom (first : Step α) (rest : List (Step α)) :
    (joinFrom first rest).getLast?.map Step.exit = (first :: rest).getLast?.map Step.exit := by
  induction rest generalizing first with
  | nil => rfl
  | cons next rest ih =>
    rw [List.getLast?_cons_cons]
    unfold joinFrom
    split
    · rw [ih (prolong first next)]
      cases rest with
      | nil => rfl
      | cons => rw [List.getLast?_cons_cons, List.getLast?_cons_cons]
    · obtain ⟨head, tail, hjoin, -⟩ := joinFrom_eq_cons_isChain next rest
      rw [← ih next, hjoin, List.getLast?_cons_cons]

/-- What holds of all pieces and survives the prolongation by a piece that begins where the step ends holds of all steps. -/
theorem forall_mem_joinFrom_of_isChain {P : Step α → Prop}
    (hprolong : ∀ s t, s.exit = t.entry → P s → P t → P (prolong s t)) {rest : List (Step α)} {first : Step α}
    (hchain : (first :: rest).IsChain fun s t => s.exit = t.entry) (hP : ∀ s ∈ first :: rest, P s) :
    ∀ s ∈ joinFrom first rest, P s := by
  induction rest generalizing first with
  | nil => exact hP
  | cons next rest ih =>
    obtain ⟨hmeet, hnext⟩ := List.isChain_cons_cons.1 hchain
    have hfirst := hP first List.mem_cons_self
    have hrest : ∀ s ∈ next :: rest, P s := fun s hs => hP s (List.mem_cons_of_mem first hs)
    unfold joinFrom
    split
    · refine ih ?_ ?_
      · rw [List.isChain_cons] at hnext ⊢
        exact hnext
      · intro s hs
        rcases List.mem_cons.1 hs with rfl | hs
        · exact hprolong first next hmeet hfirst (hrest next List.mem_cons_self)
        · exact hrest s (List.mem_cons_of_mem next hs)
    · intro s hs
      rcases List.mem_cons.1 hs with rfl | hs
      · exact hfirst
      · exact ih hnext hrest s hs

theorem forall_mem_join_of_isChain {P : Step α → Prop}
    (hprolong : ∀ s t, s.exit = t.entry → P s → P t → P (prolong s t)) {l : List (Step α)}
    (hchain : l.IsChain fun s t => s.exit = t.entry) (hP : ∀ s ∈ l, P s) : ∀ s ∈ join l, P s := by
  cases l with
  | nil => exact hP
  | cons first rest => exact forall_mem_joinFrom_of_isChain hprolong hchain hP

/-- The path inside the cells that are picked by their bins is as long behind the joining as before it. -/
theorem sum_length_filter_joinFrom (P : Nat × Nat → Bool) (first : Step ℝ) (rest : List (Step ℝ)) :
    (((joinFrom first rest).filter (P ∘ channels)).map Step.length).sum =
      (((first :: rest).filter (P ∘ channels)).map Step.length).sum := by
  induction rest generalizing first with
  | nil => rfl
  | cons next rest ih =>
    unfold joinFrom
    split
    · rename_i hsame
      have hnext : channels next = channels first := (sameChannel_iff_channels_eq.1 hsame).symm
      have hprolong : channels (prolong first next) = channels first := rfl
      have hlength : (prolong first next).length = first.length + next.length := rfl
      rw [ih (prolong first next)]
      by_cases h : P (channels first) = true
      · simp [h, hnext, hprolong, hlength, add_assoc]
      · simp [h, hnext, hprolong]
    · rw [List.filter_cons, List.filter_cons]
      by_cases h : (P ∘ channels) first = true
      · rw [if_pos h, if_pos h, List.map_cons, List.map_cons, List.sum_cons, List.sum_cons, ih next]
      · rw [if_neg h, if_neg h, ih next]

theorem sum_length_filter_join (P : Nat × Nat → Bool) (l : List (Step ℝ)) :
    (((join l).filter (P ∘ channels)).map Step.length).sum = ((l.filter (P ∘ channels)).map Step.length).sum := by
  cases l with
  | nil => rfl
  | cons first rest => exact sum_length_filter_joinFrom P first rest

end Join

/-! ## Pieces -/

section Pieces

variable {α : Type} [Scalar α] (segmentation : Segmentation α) (start delta : Vec3 α) (length : α)

/-- The pieces of the track between a first parameter and the cuts behind it. -/
def piecesFrom (first : α) (cuts : List α) : List (Step α) :=
  ((first :: cuts).zip cuts).map fun (before, after) => piece segmentation start delta length before after

theorem pieces_eq (cuts : List α) :
    pieces segmentation start delta length cuts = piecesFrom segmentation start delta length 0 cuts := rfl

theorem piecesFrom_cons (first next : α) (cuts : List α) :
    piecesFrom segmentation start delta length first (next :: cuts) =
      piece segmentation start delta length first next :: piecesFrom segmentation start delta length next cuts := rfl

/-- The last piece ends at the last cut. -/
theorem getLast?_piecesFrom (first : α) (cuts : List α) :
    (piecesFrom segmentation start delta length first cuts).getLast?.map Step.exit =
      cuts.getLast?.map fun u => start + delta * u := by
  induction cuts generalizing first with
  | nil => rfl
  | cons next cuts ih =>
    rw [piecesFrom_cons]
    cases cuts with
    | nil => rfl
    | cons last cuts =>
      rw [List.getLast?_cons_cons, ← ih next, piecesFrom_cons, List.getLast?_cons_cons]

/-- Each piece begins where the one before it ends. -/
theorem isChain_piecesFrom (first : α) (cuts : List α) :
    (piecesFrom segmentation start delta length first cuts).IsChain fun s t => s.exit = t.entry := by
  induction cuts generalizing first with
  | nil => exact List.IsChain.nil
  | cons next cuts ih =>
    rw [piecesFrom_cons]
    cases cuts with
    | nil => exact List.isChain_singleton _
    | cons last cuts =>
      have hrest := ih next
      rw [piecesFrom_cons] at hrest ⊢
      exact List.isChain_cons_cons.2 ⟨rfl, hrest⟩

end Pieces

section Exact

variable (segmentation : Segmentation ℝ) (start delta : Vec3 ℝ) (length : ℝ)

/-- The cell of a piece is that of its middle. -/
theorem channels_piece (before after : ℝ) :
    channels (piece segmentation start delta length before after) =
      (segmentation.x.bin (start.x + delta.x * ((before + after) / 2)),
        segmentation.y.bin (start.y + delta.y * ((before + after) / 2))) := by
  have hmiddle : 0.5 * (before + after) = (before + after) / 2 := by
    norm_num
    ring
  rw [← hmiddle]
  rfl

/-- Between ascending cuts, a piece lies between two parameters that ascend and are not below the first one. -/
theorem exists_of_mem_piecesFrom {first : ℝ} {cuts : List ℝ} (hcuts : (first :: cuts).IsChain (· < ·)) {s : Step ℝ}
    (hs : s ∈ piecesFrom segmentation start delta length first cuts) :
    ∃ before after, first ≤ before ∧ before < after ∧ s = piece segmentation start delta length before after := by
  induction cuts generalizing first with
  | nil => exact absurd hs List.not_mem_nil
  | cons next cuts ih =>
    obtain ⟨hlt, hrest⟩ := List.isChain_cons_cons.1 hcuts
    rw [piecesFrom_cons] at hs
    rcases List.mem_cons.1 hs with rfl | hs
    · exact ⟨first, next, le_rfl, hlt, rfl⟩
    · obtain ⟨before, after, hle, hs⟩ := ih hrest hs
      exact ⟨before, after, hlt.le.trans hle, hs⟩

/-- What holds of two pieces of which one lies behind the other holds of the pieces in their order. -/
theorem pairwise_piecesFrom {R : Step ℝ → Step ℝ → Prop}
    (hR : ∀ a b c d, a < b → b ≤ c → c < d →
      R (piece segmentation start delta length a b) (piece segmentation start delta length c d))
    {first : ℝ} {cuts : List ℝ} (hcuts : (first :: cuts).IsChain (· < ·)) :
    (piecesFrom segmentation start delta length first cuts).Pairwise R := by
  induction cuts generalizing first with
  | nil => exact List.Pairwise.nil
  | cons next cuts ih =>
    obtain ⟨hlt, hrest⟩ := List.isChain_cons_cons.1 hcuts
    rw [piecesFrom_cons]
    refine List.pairwise_cons.2 ⟨fun t ht => ?_, ih hrest⟩
    obtain ⟨before, after, hle, hlt', rfl⟩ := exists_of_mem_piecesFrom segmentation start delta length hrest ht
    exact hR first next before after hlt hle hlt'

/-- Altogether the pieces are as long as the track between the first parameter and the last cut. -/
theorem sum_length_piecesFrom (first : ℝ) (cuts : List ℝ) :
    ((piecesFrom segmentation start delta length first cuts).map Step.length).sum =
      (cuts.getLast?.getD first - first) * length := by
  induction cuts generalizing first with
  | nil => simp [piecesFrom]
  | cons next cuts ih =>
    have hpiece : (piece segmentation start delta length first next).length = (next - first) * length := rfl
    rw [piecesFrom_cons, List.map_cons, List.sum_cons, ih next, hpiece, List.getLast?_cons, Option.getD_some]
    ring

end Exact

end PlanarStepper

end DetectorReadout
