import DetectorReadout.Event.Algorithm
import DetectorReadout.Proofs.SmearerOrder
import DetectorReadout.Proofs.StoreFrame

/-!
# What an execution reads and writes

Digitizer, smearer and selector go through the same phases: read the input, compute, give up or publish the output. So an
execution is a function of what stands under two names, the input and the output of the algorithm (`Algorithm.effect`), and it
either leaves the store as it was or writes one collection under the output name (`Algorithm.execute_eq_effect`).
-/

namespace DetectorReadout

namespace EventStore

/-- The store with a collection written under a name, or the store as it was if there is none to write. -/
def write (s : EventStore Collection) (name : String) : Option (Sigma Collection) → EventStore Collection
  | none => s
  | some x => s.put name x

/-- A write to one name, if it is made, leaves what stands under the others. -/
theorem lookup_write_of_ne (s : EventStore Collection) {name other : String} (x : Option (Sigma Collection))
    (h : other ≠ name) : (s.write name x).lookup other = s.lookup other := by
  cases x with
  | none => rfl
  | some x => exact lookup_put_of_ne s x h

/-- Writes to different names commute, whether they are made or not. -/
theorem write_comm (s : EventStore Collection) {name other : String} (x y : Option (Sigma Collection))
    (h : name ≠ other) : (s.write name x).write other y = (s.write other y).write name x := by
  cases x with
  | none => rfl
  | some x =>
    cases y with
    | none => rfl
    | some y => exact put_comm s x y h

end EventStore

namespace Algorithm

/-- The kind of collection that an algorithm reads. -/
def inputKind : Algorithm → CollectionKind
  | digitizer _ | smearer _ => .hits
  | selector _ => .vertices

/-- The kind of collection that an algorithm adds. -/
def outputKind : Algorithm → CollectionKind
  | digitizer _ => .clusters
  | smearer _ => .links
  | selector _ => .vertices

/-- What an algorithm makes of its input, unless it gives up. -/
def compute : (a : Algorithm) → EventContext → Collection a.inputKind → Option (Collection a.outputKind)
  | digitizer d, ctx, hits => some (d.digitize ctx.conditions hits)
  | smearer s, ctx, hits =>
    (s.smear ctx.conditions (s.random.stream ctx.event) (SortedMultimap.toList hits)).toOption
  | selector s, _, vertices => some (s.select vertices)

/-- How an execution ends and what it writes, from what stands under the names of its input and of its output. -/
def effect (a : Algorithm) (ctx : EventContext) (atInput atOutput : Option (Sigma Collection)) :
    Except StoreError ProcessCode × Option (Sigma Collection) :=
  match atInput with
  | none => (.error (.missing a.input), none)
  | some ⟨kind, c⟩ =>
    if h : kind = a.inputKind then
      match a.compute ctx (h ▸ c), atOutput with
      | none, _ => (.ok .abort, none)
      | some _, some _ => (.error (.duplicate a.output), none)
      | some out, none => (.ok .success, some ⟨a.outputKind, out⟩)
    else (.error (.otherKind a.input (toString a.inputKind)), none)

/-- The output of an algorithm has a name. -/
theorem output_ne (a : Algorithm) : a.output ≠ "" := by
  cases a with
  | digitizer d => exact d.output_ne
  | smearer s => exact s.output_ne
  | selector s => exact s.output_ne

/-- The phases of an execution. -/
theorem execute_eq_phases (a : Algorithm) (ctx : EventContext) (s : EventStore Collection) :
    a.execute ctx s =
      match s.get a.input a.inputKind with
      | .error e => (.error e, s)
      | .ok c =>
        match a.compute ctx c with
        | none => (.ok .abort, s)
        | some out => s.publish a.output a.outputKind out := by
  cases a with
  | digitizer d =>
    simp only [execute, Digitizer.execute, input, inputKind, output, outputKind]
    cases s.get d.input .hits with
    | error e => rfl
    | ok hits => rfl
  | selector d =>
    simp only [execute, ParticleSelector.execute, input, inputKind, output, outputKind]
    cases s.get d.config.input .vertices with
    | error e => rfl
    | ok vertices => rfl
  | smearer d =>
    simp only [execute, Smearer.execute, input, inputKind, output, outputKind]
    cases s.get d.input .hits with
    | error e => rfl
    | ok hits =>
      simp only [compute]
      cases d.smear ctx.conditions (d.random.stream ctx.event) (SortedMultimap.toList hits) with
      | error e => rfl
      | ok links => rfl

/-- An execution is its effect: it looks at what stands under two names, and writes under one of them or not at all. -/
theorem execute_eq_effect (a : Algorithm) (ctx : EventContext) (s : EventStore Collection) :
    a.execute ctx s =
      ((a.effect ctx (s.lookup a.input) (s.lookup a.output)).1,
        s.write a.output (a.effect ctx (s.lookup a.input) (s.lookup a.output)).2) := by
  rw [execute_eq_phases]
  cases hin : s.lookup a.input with
  | none =>
    rw [EventStore.get_of_none hin]
    rfl
  | some x =>
    obtain ⟨kind, c⟩ := x
    by_cases hkind : kind = a.inputKind
    · subst hkind
      rw [EventStore.get_of_some hin]
      simp only [effect, dif_pos]
      cases a.compute ctx c with
      | none => rfl
      | some out =>
        cases hout : s.lookup a.output with
        | none => exact EventStore.publish_of_none a.output_ne hout _ _
        | some y => exact EventStore.publish_of_some a.output_ne hout _ _
    · rw [EventStore.get_of_ne hin hkind]
      simp only [effect, dif_neg hkind]
      rfl

section Commuting

variable {a b : Algorithm} (hinput : a.output ≠ b.input) (houtput : a.output ≠ b.output)

include hinput houtput

/-- How an execution ends does not depend on an earlier one that adds neither what it reads nor what it adds. -/
theorem fst_execute_of_ne (ctx ctx' : EventContext) (s : EventStore Collection) :
    (b.execute ctx' (a.execute ctx s).2).1 = (b.execute ctx' s).1 := by
  rw [execute_eq_effect a, execute_eq_effect b, execute_eq_effect b]
  rw [EventStore.lookup_write_of_ne _ _ hinput.symm, EventStore.lookup_write_of_ne _ _ houtput.symm]

/-- Executions that add under different names and do not read what the other one adds commute. -/
theorem snd_execute_comm (hinput' : b.output ≠ a.input) (ctx ctx' : EventContext) (s : EventStore Collection) :
    (b.execute ctx' (a.execute ctx s).2).2 = (a.execute ctx (b.execute ctx' s).2).2 := by
  rw [execute_eq_effect a, execute_eq_effect b, execute_eq_effect b, execute_eq_effect a]
  rw [EventStore.lookup_write_of_ne _ _ hinput.symm, EventStore.lookup_write_of_ne _ _ houtput.symm,
    EventStore.lookup_write_of_ne _ _ hinput'.symm, EventStore.lookup_write_of_ne _ _ houtput]
  exact EventStore.write_comm _ _ _ houtput

end Commuting

end Algorithm

end DetectorReadout
