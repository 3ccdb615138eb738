import DetectorReadout.Proofs.Execution

/-!
# Executions are transactions

An algorithm that was built from an accepted configuration reads and adds collections under the names of the configuration.
Each of its executions ends in one of five ways (`Algorithm.execute_cases`), and only the last of them touches the store: it
adds one collection under the output name, which was free (`Algorithm.execute_is_transaction`).
-/

namespace DetectorReadout

/-- The configuration of an algorithm. -/
inductive AlgorithmConfig where
  /-- Of a digitizer. -/
  | digitizer (c : DigitizerConfig Float)
  /-- Of a smearer. -/
  | smearer (c : SmearerConfig)
  /-- Of a selector. -/
  | selector (c : SelectorConfig)

namespace AlgorithmConfig

/-- The configured name of the input. -/
def input : AlgorithmConfig → String
  | digitizer c => c.input
  | smearer c => c.input
  | selector c => c.input

/-- The configured name of the output. -/
def output : AlgorithmConfig → String
  | digitizer c => c.output
  | smearer c => c.output
  | selector c => c.output

/-- The algorithm of a configuration, if the configuration is accepted. -/
def build : AlgorithmConfig → Except ConfigError Algorithm
  | digitizer c => (Digitizer.ofConfig c).map .digitizer
  | smearer c => (Smearer.ofConfig c).map .smearer
  | selector c => (ParticleSelector.ofConfig c).map .selector

end AlgorithmConfig

/-- A digitizer has the names of its configuration. -/
theorem Digitizer.names_of_ofConfig {c : DigitizerConfig Float} {d : Digitizer Float} (h : ofConfig c = .ok d) :
    d.input = c.input ∧ d.output = c.output := by
  unfold ofConfig at h
  split at h
  · cases h
  · split at h
    · cases h
    · split at h
      · cases h
      · cases h
      · cases h
        exact ⟨rfl, rfl⟩

/-- A smearer has the names of its configuration. -/
theorem Smearer.names_of_ofConfig {c : SmearerConfig} {s : Smearer} (h : ofConfig c = .ok s) :
    s.input = c.input ∧ s.output = c.output := by
  unfold ofConfig at h
  split at h
  · cases h
  · split at h
    · cases h
    · split at h
      · split at h
        · split at h
          · cases h
          · cases h
            exact ⟨rfl, rfl⟩
        · cases h
      · cases h

/-- A selector keeps its configuration. -/
theorem ParticleSelector.config_of_ofConfig {c : SelectorConfig} {s : ParticleSelector} (h : ofConfig c = .ok s) :
    s.config = c := by
  unfold ofConfig at h
  split at h
  · cases h
  · split at h
    · cases h
    · split at h
      · cases h
      · cases h
        rfl

/-- What comes out of a mapped computation is the image of what comes out of the computation. -/
theorem exists_of_map_ok {ε α β : Type} {f : α → β} {x : Except ε α} {b : β} (h : x.map f = .ok b) :
    ∃ a, x = .ok a ∧ f a = b := by
  cases x with
  | error e => nomatch h
  | ok a => exact ⟨a, rfl, Except.ok.inj h⟩

/-- An algorithm has the names of its configuration. -/
theorem AlgorithmConfig.names_of_build {c : AlgorithmConfig} {a : Algorithm} (h : c.build = .ok a) :
    a.input = c.input ∧ a.output = c.output := by
  cases c with
  | digitizer c =>
    obtain ⟨d, hd, rfl⟩ := exists_of_map_ok h
    exact Digitizer.names_of_ofConfig hd
  | smearer c =>
    obtain ⟨s, hs, rfl⟩ := exists_of_map_ok h
    exact Smearer.names_of_ofConfig hs
  | selector c =>
    obtain ⟨s, hs, rfl⟩ := exists_of_map_ok h
    have hconfig := ParticleSelector.config_of_ofConfig hs
    exact ⟨congrArg (·.input) hconfig, congrArg (·.output) hconfig⟩

namespace Algorithm

/-- An input that an algorithm does not give up on: a smearer wants hits in the order of their addresses. -/
def Takes : (a : Algorithm) → Collection a.inputKind → Prop
  | digitizer _, _ | selector _, _ => True
  | smearer _, hits => (SortedMultimap.toList hits).Pairwise fun a b => a.1 ≤ b.1

/-- Something is made of exactly the inputs that are not given up on. -/
theorem compute_eq_some_iff (a : Algorithm) (ctx : EventContext) (c : Collection a.inputKind) :
    (∃ out, a.compute ctx c = some out) ↔ a.Takes c := by
  cases a with
  | digitizer d => exact ⟨fun _ => trivial, fun _ => ⟨_, rfl⟩⟩
  | selector s => exact ⟨fun _ => trivial, fun _ => ⟨_, rfl⟩⟩
  | smearer s =>
    refine Iff.trans ?_ (s.smear_ok_iff ctx.conditions (s.random.stream ctx.event) (SortedMultimap.toList c))
    simp only [compute]
    cases s.smear ctx.conditions (s.random.stream ctx.event) (SortedMultimap.toList c) with
    | error refused => exact iff_of_false (by rintro ⟨_, ⟨⟩⟩) (by rintro ⟨_, ⟨⟩⟩)
    | ok links => exact ⟨fun _ => ⟨links, rfl⟩, fun _ => ⟨links, rfl⟩⟩

/-- Only a smearer gives up on an input. -/
theorem exists_smearer_of_not_takes {a : Algorithm} {c : Collection a.inputKind} (h : ¬ a.Takes c) :
    ∃ smearer, a = .smearer smearer := by
  cases a with
  | digitizer d => exact absurd trivial h
  | selector s => exact absurd trivial h
  | smearer s => exact ⟨s, rfl⟩

/-- The ways in which an execution can end: the input is missing, or of another kind, or given up on, or the name of the
output is taken, or all goes well. -/
theorem execute_cases (a : Algorithm) (ctx : EventContext) (s : EventStore Collection) :
    (s.lookup a.input = none ∧ a.execute ctx s = (.error (.missing a.input), s)) ∨
      (∃ x, s.lookup a.input = some x ∧ x.1 ≠ a.inputKind ∧
        a.execute ctx s = (.error (.otherKind a.input (toString a.inputKind)), s)) ∨
      (∃ c, s.lookup a.input = some ⟨a.inputKind, c⟩ ∧ ¬ a.Takes c ∧ a.execute ctx s = (.ok .abort, s)) ∨
      (∃ c y, s.lookup a.input = some ⟨a.inputKind, c⟩ ∧ a.Takes c ∧ s.lookup a.output = some y ∧
        a.execute ctx s = (.error (.duplicate a.output), s)) ∨
      ∃ c out, s.lookup a.input = some ⟨a.inputKind, c⟩ ∧ a.Takes c ∧ a.compute ctx c = some out ∧
        s.lookup a.output = none ∧ a.execute ctx s = (.ok .success, s.put a.output ⟨a.outputKind, out⟩) := by
  rw [execute_eq_effect]
  cases hin : s.lookup a.input with
  | none => exact Or.inl ⟨rfl, rfl⟩
  | some x =>
    right
    obtain ⟨kind, c⟩ := x
    by_cases hkind : kind = a.inputKind
    · subst hkind
      right
      simp only [effect, dif_pos]
      have htakes := a.compute_eq_some_iff ctx c
      cases hcompute : a.compute ctx c with
      | none =>
        refine Or.inl ⟨c, rfl, fun h => ?_, rfl⟩
        obtain ⟨out, hout⟩ := htakes.2 h
        cases hcompute.symm.trans hout
      | some out =>
        right
        have h := htakes.1 ⟨out, hcompute⟩
        cases hout : s.lookup a.output with
        | some y => exact Or.inl ⟨c, y, rfl, h, rfl, rfl⟩
        | none => exact Or.inr ⟨c, out, rfl, h, hcompute, rfl, rfl⟩
    · refine Or.inl ⟨_, rfl, hkind, ?_⟩
      simp only [effect, dif_neg hkind]
      rfl

/-- What makes the execution of an algorithm on a store a transaction, given how it ended and the store behind it. -/
structure IsTransaction (a : Algorithm) (input output : String) (ctx : EventContext) (s : EventStore Collection)
    (outcome : Outcome) : Prop where
  /-- Unless all goes well the store is as it was. -/
  unchanged : outcome.1 ≠ .ok .success → outcome.2 = s
  /-- If all goes well, what the algorithm makes of its input stands under the name of the output, where nothing stood, and
  under every other name stands what stood there. -/
  added : outcome.1 = .ok .success → ∃ c out, s.lookup input = some ⟨a.inputKind, c⟩ ∧ a.compute ctx c = some out ∧
    s.lookup output = none ∧ outcome.2.lookup output = some ⟨a.outputKind, out⟩ ∧
    ∀ name, name ≠ output → outcome.2.lookup name = s.lookup name
  /-- All goes well exactly if the input is there, of the right kind and in order, and the name of the output is free. -/
  success_iff : outcome.1 = .ok .success ↔
    (∃ c, s.lookup input = some ⟨a.inputKind, c⟩ ∧ a.Takes c) ∧ s.lookup output = none
  /-- A missing input is reported, whether the name of the output is free or not. -/
  missing : s.lookup input = none → outcome.1 = .error (.missing input)
  /-- So is an input of another kind, with the kind that was expected. -/
  otherKind : ∀ x, s.lookup input = some x → x.1 ≠ a.inputKind →
    outcome.1 = .error (.otherKind input (toString a.inputKind))
  /-- A taken name of the output is reported if nothing is wrong with the input. -/
  duplicate : ∀ c, s.lookup input = some ⟨a.inputKind, c⟩ → a.Takes c → s.lookup output ≠ none →
    outcome.1 = .error (.duplicate output)
  /-- An event is given up exactly if the input is there, of the right kind, and not in order. -/
  abort_iff : outcome.1 = .ok .abort ↔ ∃ c, s.lookup input = some ⟨a.inputKind, c⟩ ∧ ¬ a.Takes c
  /-- Only a smearer gives up an event. -/
  smearer_of_abort : outcome.1 = .ok .abort → ∃ smearer, a = .smearer smearer

section Endings

variable {a : Algorithm} {input output : String} {ctx : EventContext} {s : EventStore Collection}

/-- A missing input is a transaction that fails. -/
theorem isTransaction_missing (hinput : s.lookup input = none) :
    a.IsTransaction input output ctx s (.error (.missing input), s) := by
  have hno : ∀ x, s.lookup input ≠ some x := fun x hx => nomatch hinput.symm.trans hx
  exact
    { unchanged := fun _ => rfl
      added := nofun
      success_iff := ⟨nofun, fun ⟨⟨_, hx, _⟩, _⟩ => absurd hx (hno _)⟩
      missing := fun _ => rfl
      otherKind := fun x hx => absurd hx (hno x)
      duplicate := fun _ hx => absurd hx (hno _)
      abort_iff := ⟨nofun, fun ⟨_, hx, _⟩ => absurd hx (hno _)⟩
      smearer_of_abort := nofun }

/-- So is an input of another kind. -/
theorem isTransaction_otherKind {x : Sigma Collection} (hinput : s.lookup input = some x) (hkind : x.1 ≠ a.inputKind) :
    a.IsTransaction input output ctx s (.error (.otherKind input (toString a.inputKind)), s) := by
  have hno : ∀ c, s.lookup input ≠ some ⟨a.inputKind, c⟩ := fun c hc =>
    hkind (congrArg Sigma.fst (Option.some.inj (hinput.symm.trans hc)))
  exact
    { unchanged := fun _ => rfl
      added := nofun
      success_iff := ⟨nofun, fun ⟨⟨c, hc, _⟩, _⟩ => absurd hc (hno c)⟩
      missing := fun hnone => nomatch hinput.symm.trans hnone
      otherKind := fun _ _ _ => rfl
      duplicate := fun c hc => absurd hc (hno c)
      abort_iff := ⟨nofun, fun ⟨c, hc, _⟩ => absurd hc (hno c)⟩
      smearer_of_abort := nofun }

variable {c : Collection a.inputKind} (hinput : s.lookup input = some ⟨a.inputKind, c⟩)

include hinput

/-- The input is taken or not, whichever way it was looked up. -/
theorem takes_iff_of_lookup {c' : Collection a.inputKind} (hc' : s.lookup input = some ⟨a.inputKind, c'⟩) :
    a.Takes c' ↔ a.Takes c := by
  cases Option.some.inj (hc'.symm.trans hinput)
  exact Iff.rfl

/-- An input that is given up on is a transaction that fails. -/
theorem isTransaction_abort (hwrong : ¬ a.Takes c) : a.IsTransaction input output ctx s (.ok .abort, s) where
  unchanged _ := rfl
  added := nofun
  success_iff := ⟨nofun, fun ⟨⟨_, hc', htakes⟩, _⟩ => absurd ((takes_iff_of_lookup hinput hc').1 htakes) hwrong⟩
  missing hnone := nomatch hinput.symm.trans hnone
  otherKind _ hx hne := absurd (congrArg Sigma.fst (Option.some.inj (hx.symm.trans hinput))) hne
  duplicate _ hc' htakes := absurd ((takes_iff_of_lookup hinput hc').1 htakes) hwrong
  abort_iff := ⟨fun _ => ⟨c, hinput, hwrong⟩, fun _ => rfl⟩
  smearer_of_abort _ := exists_smearer_of_not_takes hwrong

variable (htakes : a.Takes c)

include htakes

/-- So is a name of the output that is taken. -/
theorem isTransaction_duplicate {y : Sigma Collection} (htaken : s.lookup output = some y) :
    a.IsTransaction input output ctx s (.error (.duplicate output), s) where
  unchanged _ := rfl
  added := nofun
  success_iff := ⟨nofun, fun ⟨_, hfree⟩ => nomatch htaken.symm.trans hfree⟩
  missing hnone := nomatch hinput.symm.trans hnone
  otherKind _ hx hne := absurd (congrArg Sigma.fst (Option.some.inj (hx.symm.trans hinput))) hne
  duplicate _ _ _ _ := rfl
  abort_iff := ⟨nofun, fun ⟨_, hc', hwrong⟩ => absurd ((takes_iff_of_lookup hinput hc').2 htakes) hwrong⟩
  smearer_of_abort := nofun

/-- Adding what the algorithm makes of its input is a transaction that succeeds. -/
theorem isTransaction_success {out : Collection a.outputKind} (hcompute : a.compute ctx c = some out)
    (hfree : s.lookup output = none) :
    a.IsTransaction input output ctx s (.ok .success, s.put output ⟨a.outputKind, out⟩) where
  unchanged hne := absurd rfl hne
  added _ := ⟨c, out, hinput, hcompute, hfree, EventStore.lookup_put_self _ _ _, fun _ hne =>
    EventStore.lookup_put_of_ne _ _ hne⟩
  success_iff := ⟨fun _ => ⟨⟨c, hinput, htakes⟩, hfree⟩, fun _ => rfl⟩
  missing hnone := nomatch hinput.symm.trans hnone
  otherKind _ hx hne := absurd (congrArg Sigma.fst (Option.some.inj (hx.symm.trans hinput))) hne
  duplicate _ _ _ htaken := absurd hfree htaken
  abort_iff := ⟨nofun, fun ⟨_, hc', hwrong⟩ => absurd ((takes_iff_of_lookup hinput hc').2 htakes) hwrong⟩
  smearer_of_abort := nofun

end Endings

/-- Every execution of an algorithm with an accepted configuration is a transaction under the configured names. -/
theorem execute_is_transaction {config : AlgorithmConfig} {a : Algorithm} (h : config.build = .ok a) (ctx : EventContext)
    (s : EventStore Collection) : a.IsTransaction config.input config.output ctx s (a.execute ctx s) := by
  obtain ⟨hin, hout⟩ := config.names_of_build h
  rw [← hin, ← hout]
  rcases a.execute_cases ctx s with ⟨hinput, hrun⟩ | ⟨x, hinput, hkind, hrun⟩ | ⟨c, hinput, hwrong, hrun⟩ |
    ⟨c, y, hinput, htakes, htaken, hrun⟩ | ⟨c, out, hinput, htakes, hcompute, hfree, hrun⟩
  · rw [hrun]
    exact isTransaction_missing hinput
  · rw [hrun]
    exact isTransaction_otherKind hinput hkind
  · rw [hrun]
    exact isTransaction_abort hinput hwrong
  · rw [hrun]
    exact isTransaction_duplicate hinput htakes htaken
  · rw [hrun]
    exact isTransaction_success hinput htakes hcompute hfree

/-- A digitizer may be configured to add its clusters under the name of its hits. It then finds its hits, is refused the name
of its output, and leaves the store as it was. -/
theorem execute_is_transaction_same_name :
    let config : AlgorithmConfig := .digitizer ⟨"hits", "hits", some fun _ _ _ _ => [], some ⟨1⟩⟩
    let s : EventStore Collection := EventStore.empty.put "hits" ⟨.hits, SortedMultimap.empty⟩
    ∃ a, config.build = .ok a ∧ a.execute {} s = (.error (.duplicate "hits"), s) := by
  intro config s
  have hinput : s.lookup "hits" = some ⟨.hits, SortedMultimap.empty⟩ := EventStore.lookup_put_self _ _ _
  refine ⟨.digitizer ⟨"hits", "hits", fun _ _ _ _ => [], ⟨1⟩, by decide, by decide⟩, rfl, ?_⟩
  have h := execute_is_transaction (show config.build = .ok _ from rfl) {} s
  have hduplicate := h.duplicate SortedMultimap.empty hinput trivial (hinput ▸ nofun)
  exact Prod.ext hduplicate (h.unchanged (hduplicate ▸ nofun))

end Algorithm

end DetectorReadout
