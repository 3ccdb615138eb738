import Mathlib.Logic.Function.Basic
import DetectorReadout.Proofs.Execution

/-!
# The schedule does not matter

Algorithms run on a family of events, each with its own store, in any order of single executions. Two executions commute if
they belong to different events, or if they add under different names and neither adds what the other one reads
(`Schedule.step_comm`). So an execution can be moved to the front past executions that it is independent of, and two orders
that agree on who reads what from whom end in the same state (`Schedule.run_eq_of_perm`).
-/

namespace DetectorReadout

/-- An event before anything ran on it. -/
structure Event where
  /-- Its number. -/
  number : UInt64
  /-- The conditions of the geometry. -/
  conditions : GeometryContext
  /-- What its store holds. -/
  store : EventStore Collection

namespace Schedule

variable {ι : Type} {algorithms : List Algorithm}

/-- The execution of one algorithm of a list on one event of a family. -/
abbrev Execution (ι : Type) (algorithms : List Algorithm) := ι × Fin algorithms.length

namespace Execution

/-- The algorithm that runs. -/
def algorithm (x : Execution ι algorithms) : Algorithm := algorithms[x.2]

/-- What the algorithm is told about the event. -/
def context (events : ι → Event) (x : Execution ι algorithms) : EventContext :=
  ⟨x.2, (events x.1).number, (events x.1).conditions⟩

/-- An execution feeds another one if the second reads what the first adds. -/
def Feeds (x y : Execution ι algorithms) : Prop := x.1 = y.1 ∧ x.algorithm.output = y.algorithm.input

instance [DecidableEq ι] (x y : Execution ι algorithms) : Decidable (x.Feeds y) :=
  inferInstanceAs (Decidable (_ ∧ _))

/-- Executions are independent if they belong to different events, or else add under different names and do not feed each
other. -/
def Independent (x y : Execution ι algorithms) : Prop :=
  x.1 = y.1 → x.algorithm.output ≠ y.algorithm.output ∧ ¬ x.Feeds y ∧ ¬ y.Feeds x

/-- If algorithms add under different names, different executions that do not feed each other are independent. -/
theorem independent_of_ne (houtputs : (algorithms.map Algorithm.output).Nodup) {x y : Execution ι algorithms} (hne : x ≠ y)
    (hxy : ¬ x.Feeds y) (hyx : ¬ y.Feeds x) : x.Independent y := by
  intro hevent
  refine ⟨fun houtput => hne (Prod.ext hevent (Fin.ext ?_)), hxy, hyx⟩
  have h : (algorithms.map Algorithm.output)[x.2.val]? = (algorithms.map Algorithm.output)[y.2.val]? := by
    rw [List.getElem?_map, List.getElem?_map, List.getElem?_eq_getElem x.2.isLt, List.getElem?_eq_getElem y.2.isLt]
    exact congrArg some houtput
  exact (List.getElem?_inj (by simp) houtputs).1 h

end Execution

/-- An order of executions is sound if each comes after those that feed it. -/
def Sound (order : List (Execution ι algorithms)) : Prop := order.Pairwise fun x y => ¬ y.Feeds x

instance [DecidableEq ι] (order : List (Execution ι algorithms)) : Decidable (Sound order) :=
  inferInstanceAs (Decidable (order.Pairwise fun x y => ¬ y.Feeds x))

/-- How far a schedule has come. -/
@[ext]
structure Progress (ι : Type) (algorithms : List Algorithm) where
  /-- What the stores of the events hold. -/
  store : ι → EventStore Collection
  /-- How the executions ended that there were. -/
  result : Execution ι algorithms → Option (Except StoreError ProcessCode)

section Run

variable [DecidableEq ι] (events : ι → Event)

/-- Before the first execution. -/
def start : Progress ι algorithms := ⟨fun i => (events i).store, fun _ => none⟩

/-- One execution. -/
def step (p : Progress ι algorithms) (x : Execution ι algorithms) : Progress ι algorithms :=
  let outcome := x.algorithm.execute (x.context events) (p.store x.1)
  ⟨Function.update p.store x.1 outcome.2, Function.update p.result x (some outcome.1)⟩

/-- The executions of a list, one after the other. -/
def run (order : List (Execution ι algorithms)) : Progress ι algorithms := order.foldl (step events) (start events)

variable {events}

/-- Independent executions commute. -/
theorem step_comm {x y : Execution ι algorithms} (hne : x ≠ y) (h : x.Independent y) (p : Progress ι algorithms) :
    step events (step events p x) y = step events (step events p y) x := by
  by_cases hevent : x.1 = y.1
  · obtain ⟨houtput, hxy, hyx⟩ := h hevent
    have hinput : x.algorithm.output ≠ y.algorithm.input := fun heq => hxy ⟨hevent, heq⟩
    have hinput' : y.algorithm.output ≠ x.algorithm.input := fun heq => hyx ⟨hevent.symm, heq⟩
    simp only [step, hevent, Function.update_self, Function.update_idem]
    rw [Algorithm.fst_execute_of_ne hinput houtput, Algorithm.fst_execute_of_ne hinput' houtput.symm,
      Algorithm.snd_execute_comm hinput houtput hinput', Function.update_comm hne]
  · simp only [step, Function.update_of_ne hevent, Function.update_of_ne (Ne.symm hevent)]
    rw [Function.update_comm hevent, Function.update_comm hne]

/-- An execution can be moved to the front past executions that it is independent of. -/
theorem foldl_step_move {x : Execution ι algorithms} {front : List (Execution ι algorithms)}
    (h : ∀ y ∈ front, y ≠ x ∧ y.Independent x) (behind : List (Execution ι algorithms)) (p : Progress ι algorithms) :
    (front ++ x :: behind).foldl (step events) p = (x :: (front ++ behind)).foldl (step events) p := by
  induction front generalizing p with
  | nil => rfl
  | cons y front ih =>
    obtain ⟨hne, hindependent⟩ := h y List.mem_cons_self
    calc (y :: front ++ x :: behind).foldl (step events) p
        = (front ++ x :: behind).foldl (step events) (step events p y) := rfl
      _ = (x :: (front ++ behind)).foldl (step events) (step events p y) :=
        ih (fun z hz => h z (List.mem_cons_of_mem y hz)) _
      _ = (front ++ behind).foldl (step events) (step events (step events p y) x) := rfl
      _ = (front ++ behind).foldl (step events) (step events (step events p x) y) := by
        rw [step_comm hne hindependent]
      _ = (x :: (y :: front ++ behind)).foldl (step events) p := rfl

/-- Sound orders of the same executions lead from the same state to the same state. -/
theorem foldl_step_eq_of_perm (houtputs : (algorithms.map Algorithm.output).Nodup)
    {order order' : List (Execution ι algorithms)} (hnodup : order.Nodup) (hperm : order.Perm order')
    (hsound : Sound order) (hsound' : Sound order') (p : Progress ι algorithms) :
    order.foldl (step events) p = order'.foldl (step events) p := by
  induction order generalizing order' p with
  | nil => rw [List.nil_perm.1 hperm]
  | cons x order ih =>
    -- The first execution of the one order stands somewhere in the other, behind executions that it is independent of.
    obtain ⟨front, behind, rfl⟩ := List.append_of_mem (hperm.mem_iff.1 List.mem_cons_self)
    have hrest : order.Perm (front ++ behind) := (List.perm_cons x).1 (hperm.trans List.perm_middle)
    have hfront : ∀ y ∈ front, y ≠ x ∧ y.Independent x := by
      intro y hy
      have hmem : y ∈ order := hrest.mem_iff.2 (List.mem_append_left behind hy)
      have hne : y ≠ x := fun heq => (List.nodup_cons.1 hnodup).1 (heq ▸ hmem)
      have hyx : ¬ y.Feeds x := (List.pairwise_cons.1 hsound).1 y hmem
      have hxy : ¬ x.Feeds y := (List.pairwise_append.1 hsound').2.2 y hy x List.mem_cons_self
      exact ⟨hne, Execution.independent_of_ne houtputs hne hyx hxy⟩
    have hsound'' : Sound (front ++ behind) :=
      List.Pairwise.sublist ((List.sublist_cons_self x behind).append_left front) hsound'
    rw [foldl_step_move hfront]
    exact ih (List.nodup_cons.1 hnodup).2 hrest (List.pairwise_cons.1 hsound).2 hsound'' (step events p x)

/-- What there was a result of keeps having one. -/
theorem isSome_result_foldl {x : Execution ι algorithms} (order : List (Execution ι algorithms))
    {p : Progress ι algorithms} (h : x ∈ order ∨ (p.result x).isSome) :
    ((order.foldl (step events) p).result x).isSome := by
  induction order generalizing p with
  | nil => exact h.resolve_left List.not_mem_nil
  | cons y order ih =>
    refine ih ?_
    by_cases hxy : x = y
    · subst hxy
      right
      simp only [step, Function.update_self, Option.isSome_some]
    · rcases h with h | h
      · exact Or.inl ((List.mem_cons.1 h).resolve_left hxy)
      · right
        simpa only [step, Function.update_of_ne hxy] using h

variable (events)

/-- The schedule does not matter. Take any family of events and any list of algorithms that add under different names, and two
orders of the same executions, each of which comes after those that feed it in both orders. Then every execution ends in the
same way in both, and every store holds the same collections behind them. -/
theorem run_eq_of_perm (houtputs : (algorithms.map Algorithm.output).Nodup) {order order' : List (Execution ι algorithms)}
    (hnodup : order.Nodup) (hperm : order.Perm order') (hsound : Sound order) (hsound' : Sound order') :
    (∀ x ∈ order, ∃ result, (run events order).result x = some result ∧ (run events order').result x = some result) ∧
      ∀ i, (run events order).store i = (run events order').store i := by
  have hrun : run events order = run events order' := foldl_step_eq_of_perm houtputs hnodup hperm hsound hsound' _
  refine ⟨fun x hx => ?_, fun i => by rw [hrun]⟩
  have hsome : ((run events order).result x).isSome := isSome_result_foldl order (Or.inl hx)
  obtain ⟨result, hresult⟩ := Option.isSome_iff_exists.1 hsome
  exact ⟨result, hresult, hrun ▸ hresult⟩

end Run

/-- Two events, of which only the first one has particles and hits. Of two selectors the second reads what the first one adds,
and a smearer reads the hits. Whether the events are processed one after the other or by turns makes no difference. -/
theorem run_eq_of_perm_two_events :
    let algorithms : List Algorithm :=
      [.selector ⟨{ input := "particles", output := "charged", keepNeutral := false }, by decide, by decide, by decide⟩,
        .selector ⟨{ input := "charged", output := "central", eta := ⟨-2, 2⟩ }, by decide, by decide, by decide⟩,
        .smearer ⟨"hits", "sourcelinks", ⟨25 * micrometre, 100 * micrometre⟩, {}, by decide, by decide, by decide⟩]
    let full : EventStore Collection :=
      ((.empty : EventStore Collection).put "hits" ⟨.hits, SortedMultimap.empty⟩).put "particles"
        ⟨.vertices, ([] : List Vertex)⟩
    let events : Fin 2 → Event := fun i => if i = 0 then ⟨6, {}, full⟩ else ⟨7, {}, .empty⟩
    let order : List (Execution (Fin 2) algorithms) :=
      ([(0, 0), (0, 1), (0, 2), (1, 0), (1, 1), (1, 2)] : List (Fin 2 × Fin 3))
    let order' : List (Execution (Fin 2) algorithms) :=
      ([(1, 2), (0, 0), (1, 0), (0, 2), (1, 1), (0, 1)] : List (Fin 2 × Fin 3))
    (∀ x ∈ order, ∃ result, (run events order).result x = some result ∧ (run events order').result x = some result) ∧
      ∀ i, (run events order).store i = (run events order').store i :=
  run_eq_of_perm _ (by decide) (by decide) (by decide) (by decide) (by decide)

end Schedule

end DetectorReadout
