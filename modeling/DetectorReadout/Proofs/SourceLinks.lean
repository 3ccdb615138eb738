import Mathlib.Logic.Function.Iterate
import DetectorReadout.Proofs.History
import DetectorReadout.Proofs.Transaction

/-!
# The links of a list of hits

Hit number `i` of a list gives the link number `i`, with the pair number `i` of the random sequence (`Smearer.links_getElem?`).
The smearer makes and stores the links one by one; what it carries from hit to hit are the links so far, the place of the next
hit and the random sequence behind the numbers drawn so far (`Smearer.smear_eq_run`). It ends with one link for every hit, or
at the first hit whose address is smaller than the one before it (`Smearer.smear_cases`). Maps that came about by edits are in
order, so on such hits it always ends with all links (`Smearer.smear_all_links_or_first_drop`).
-/

namespace DetectorReadout

namespace Normal

/-- The next pair of standard normal numbers of a random sequence. -/
def nextPair (random : Keystream) : Float × Float := ((sample random).1, (sample (sample random).2).1)

/-- The random sequence behind its next pair of standard normal numbers. -/
def behindPair (random : Keystream) : Keystream := (sample (sample random).2).2

/-- Pairs are drawn one behind the other. -/
theorem pairs_succ (n : Nat) (random : Keystream) :
    pairs (n + 1) random = nextPair random :: pairs n (behindPair random) := by
  rw [pairs]
  rfl

end Normal

namespace Smearer

/-- The links of the hits from a place in their collection on, with the random sequence at that place. -/
def linksFrom (s : Smearer) (ctx : GeometryContext) (place : Nat) (random : Keystream)
    (entries : List (GeometryId × Hit Float)) : List (GeometryId × SourceLink) :=
  ((entries.zipIdx place).zip (Normal.pairs entries.length random)).map fun (((id, hit), index), noise) =>
    (id, s.link ctx index id hit noise)

/-- What the smearer carries from hit to hit. -/
structure Progress where
  /-- The links so far. -/
  links : SourceLinks
  /-- The place of the next hit. -/
  place : Nat
  /-- The random sequence behind the numbers drawn so far. -/
  random : Keystream

/-- Smears one more hit: draws its pair of numbers and appends its link. -/
def advance (s : Smearer) (ctx : GeometryContext) (p : Progress) (e : GeometryId × Hit Float) :
    Except (OutOfOrder GeometryId SourceLink) Progress :=
  (p.links.insertSortedEnd e.1 (s.link ctx p.place e.1 e.2 (Normal.nextPair p.random))).map fun links =>
    ⟨links, p.place + 1, Normal.behindPair p.random⟩

section Links

variable (s : Smearer) (ctx : GeometryContext)

/-- The first hit takes the next pair, and those behind it go on from there. -/
theorem linksFrom_cons (place : Nat) (random : Keystream) (e : GeometryId × Hit Float)
    (entries : List (GeometryId × Hit Float)) :
    s.linksFrom ctx place random (e :: entries) =
      (e.1, s.link ctx place e.1 e.2 (Normal.nextPair random)) ::
        s.linksFrom ctx (place + 1) (Normal.behindPair random) entries := by
  simp only [linksFrom, List.zipIdx_cons, List.length_cons, Normal.pairs_succ, List.zip_cons_cons, List.map_cons]

/-- A hit gets the pair that stands as far behind the start of the random sequence as the hit behind the first one. -/
theorem linksFrom_getElem? (place : Nat) (random : Keystream) (entries : List (GeometryId × Hit Float)) (i : Nat) :
    (s.linksFrom ctx place random entries)[i]? = entries[i]?.map fun e =>
      (e.1, s.link ctx (place + i) e.1 e.2 (Normal.nextPair (Normal.behindPair^[i] random))) := by
  induction entries generalizing place random i with
  | nil => rfl
  | cons e entries ih =>
    rw [linksFrom_cons]
    cases i with
    | zero => rfl
    | succ i =>
      rw [List.getElem?_cons_succ, List.getElem?_cons_succ, ih, Nat.add_right_comm, Nat.add_assoc]
      rfl

/-- Hit number `i` gives link number `i`, with pair number `i` of the random sequence. -/
theorem links_getElem? (random : Keystream) (entries : List (GeometryId × Hit Float)) (i : Nat) :
    (s.links ctx random entries)[i]? = entries[i]?.map fun e =>
      (e.1, s.link ctx i e.1 e.2 (Normal.nextPair (Normal.behindPair^[i] random))) := by
  have h := s.linksFrom_getElem? ctx 0 random entries i
  rwa [Nat.zero_add] at h

/-- The links of the first hits are the first links. -/
theorem links_take (random : Keystream) (entries : List (GeometryId × Hit Float)) (n : Nat) :
    s.links ctx random (entries.take n) = (s.links ctx random entries).take n := by
  refine List.ext_getElem? fun i => ?_
  rw [links_getElem?, List.getElem?_take, List.getElem?_take, links_getElem?]
  split <;> rfl

/-- A run of the smearer over some hits appends their links, moves on by their number and draws a pair for each. -/
theorem foldlM_advance (p : Progress) (entries : List (GeometryId × Hit Float)) :
    entries.foldlM (s.advance ctx) p =
      (p.links.appendAll (s.linksFrom ctx p.place p.random entries)).map fun links =>
        ⟨links, p.place + entries.length, Normal.behindPair^[entries.length] p.random⟩ := by
  induction entries generalizing p with
  | nil => rfl
  | cons e entries ih =>
    rw [linksFrom_cons, List.foldlM_cons, SortedMultimap.appendAll, List.foldlM_cons, advance]
    cases p.links.insertSortedEnd e.1 (s.link ctx p.place e.1 e.2 (Normal.nextPair p.random)) with
    | error refused => rfl
    | ok links =>
      refine (ih ⟨links, p.place + 1, Normal.behindPair p.random⟩).trans ?_
      simp only [List.length_cons, Function.iterate_succ_apply, Nat.add_right_comm]
      rfl

/-- Smearing goes through the hits one by one, draws the numbers of each and appends its link, until one is refused. -/
theorem smear_eq_run (random : Keystream) (entries : List (GeometryId × Hit Float)) :
    s.smear ctx random entries = (entries.foldlM (s.advance ctx) ⟨.empty, 0, random⟩).map (·.links) := by
  rw [foldlM_advance, smear_eq_appendAll]
  change SortedMultimap.appendAll .empty (s.linksFrom ctx 0 random entries) = _
  cases SortedMultimap.appendAll .empty (s.linksFrom ctx 0 random entries) with
  | error refused => rfl
  | ok links => rfl

end Links

/-- One link for every hit, in the order of the hits. -/
structure OneLinkPerHit (entries : List (GeometryId × Hit Float)) (links : SourceLinks) : Prop where
  /-- There are as many links as hits. -/
  size_eq : SortedMultimap.size links = entries.length
  /-- Link number `i` stands under the address of hit number `i`, and refers to this hit and its surface. -/
  link_of : ∀ i (e : GeometryId × Hit Float), entries[i]? = some e →
    ∃ link : SourceLink, (SortedMultimap.toList links)[i]? = some (e.1, link) ∧ link.hitIndex = i ∧ link.id = e.1 ∧
      link.surface = e.2.surface

/-- What is handed back about the first hit whose address is smaller than the one before it. -/
structure FirstDrop (entries : List (GeometryId × Hit Float)) (place : Nat) (refused : OutOfOrder GeometryId SourceLink) :
    Prop where
  /-- The hits before it are in order. -/
  ordered_before : (entries.take place).Pairwise fun a b => a.1 ≤ b.1
  /-- There is a hit before it, and the address of that hit is handed back. -/
  last_of : 0 < place ∧ entries[place - 1]?.map (·.1) = some refused.last
  /-- Its own address is handed back, and a link that refers to it and its surface. -/
  key_of : ∃ e, entries[place]? = some e ∧ refused.key = e.1 ∧ refused.value.hitIndex = place ∧
    refused.value.id = e.1 ∧ refused.value.surface = e.2.surface
  /-- The one address is smaller than the other. -/
  key_lt : refused.key < refused.last

section Outcome

variable (s : Smearer) (ctx : GeometryContext) (random : Keystream) (entries : List (GeometryId × Hit Float))

/-- The links of a list of hits are one link for every hit. -/
theorem oneLinkPerHit_of_toList_eq {links : SourceLinks} (h : SortedMultimap.toList links = s.links ctx random entries) :
    OneLinkPerHit entries links where
  size_eq := by
    have hlength := congrArg List.length (s.map_fst_links ctx random entries)
    rwa [List.length_map, List.length_map, ← h, SortedMultimap.length_toList] at hlength
  link_of i e he := by
    have hlink := s.links_getElem? ctx random entries i
    rw [he, ← h] at hlink
    exact ⟨_, hlink, rfl, rfl, rfl⟩

/-- Smearing either makes all links, of hits in order, or gives up at the first hit that is out of order. -/
theorem smear_cases :
    (∃ links, s.smear ctx random entries = .ok links ∧ (entries.Pairwise fun a b => a.1 ≤ b.1) ∧
        SortedMultimap.toList links = s.links ctx random entries) ∨
      ∃ place refused, s.smear ctx random entries = .error refused ∧ FirstDrop entries place refused := by
  rw [smear_eq_appendAll]
  rcases SortedMultimap.appendAll_cases (m := .empty) List.Pairwise.nil (s.links ctx random entries) with
    ⟨links, hok, hlist, hord⟩ | ⟨a, x, b, last, hsplit, hord, hlast, hlt, herr⟩
  · have hlist : SortedMultimap.toList links = s.links ctx random entries := hlist
    refine Or.inl ⟨links, hok, ?_, hlist⟩
    rwa [SortedMultimap.Ordered, hlist, pairwise_links_iff] at hord
  · simp only [SortedMultimap.toList_empty, List.nil_append] at hord hlast
    have hget := s.links_getElem? ctx random entries
    have hpos : 0 < a.length := List.length_pos_of_mem (List.mem_of_getLast? hlast)
    refine Or.inr ⟨a.length, _, herr, ?_, ⟨hpos, ?_⟩, ?_, hlt⟩
    · -- The links before the refused one are those of the hits before the refused hit.
      rw [← s.pairwise_links_iff ctx random, links_take, hsplit, List.take_left]
      exact hord
    · have hbefore := hget (a.length - 1)
      rw [hsplit, List.getElem?_append_left (by omega), ← List.getLast?_eq_getElem?, hlast] at hbefore
      obtain ⟨e, he, hlink⟩ := Option.map_eq_some_iff.1 hbefore.symm
      rw [he, ← hlink]
      rfl
    · have hplace := hget a.length
      rw [hsplit, List.getElem?_append_right (Nat.le_refl _), Nat.sub_self, List.getElem?_cons_zero] at hplace
      obtain ⟨e, he, hlink⟩ := Option.map_eq_some_iff.1 hplace.symm
      rw [← hlink]
      exact ⟨e, he, rfl, rfl, rfl, rfl⟩

variable {entries}

/-- Of hits in order all links are made. -/
theorem smear_of_ordered (hord : entries.Pairwise fun a b => a.1 ≤ b.1) :
    ∃ links, s.smear ctx random entries = .ok links ∧ SortedMultimap.toList links = s.links ctx random entries := by
  obtain ⟨links, hok⟩ := (s.smear_ok_iff ctx random entries).2 hord
  rcases s.smear_cases ctx random entries with ⟨links', hok', -, hlist⟩ | ⟨place, refused, herr, -⟩
  · exact ⟨links', hok', hlist⟩
  · exact nomatch hok.symm.trans herr

end Outcome

section Execution

variable {s : Smearer} {ctx : EventContext} {store : EventStore Collection}

/-- An event is given up only on hits that are out of order. -/
theorem exists_unordered_of_abort (h : (s.execute ctx store).1 = .ok .abort) :
    ∃ hits : Hits Float, store.lookup s.input = some ⟨.hits, hits⟩ ∧ ¬ SortedMultimap.Ordered hits := by
  rcases Algorithm.execute_cases (.smearer s) ctx store with ⟨-, hrun⟩ | ⟨x, -, -, hrun⟩ | ⟨hits, hinput, hwrong, -⟩ |
    ⟨hits, y, -, -, -, hrun⟩ | ⟨hits, links, -, -, -, -, hrun⟩
  · exact nomatch h.symm.trans (congrArg Prod.fst hrun)
  · exact nomatch h.symm.trans (congrArg Prod.fst hrun)
  · exact ⟨hits, hinput, hwrong⟩
  · exact nomatch h.symm.trans (congrArg Prod.fst hrun)
  · exact nomatch h.symm.trans (congrArg Prod.fst hrun)

/-- The links that the smearer makes are added, if the name of the output is free. -/
theorem execute_of_smear_ok {hits : Hits Float} {links : SourceLinks}
    (hok : s.smear ctx.conditions (s.random.stream ctx.event) (SortedMultimap.toList hits) = .ok links)
    (hinput : store.lookup s.input = some ⟨.hits, hits⟩) (hfree : store.lookup s.output = none) :
    s.execute ctx store = (.ok .success, store.put s.output ⟨.links, links⟩) := by
  simp only [execute, EventStore.get_of_some hinput, hok]
  exact EventStore.publish_of_none s.output_ne hfree _ _

end Execution

/-- The smearer makes all links or none. For every list of hits with their addresses it succeeds exactly if the addresses do not
decrease. Then there is one link for every hit, in the order of the hits, which refers to the place, the address and the
surface of its hit; otherwise the first hit whose address is smaller than the one before it is handed back. Hits that were
collected by any sequence of edits are in order, so the smearer never gives up an event on them. -/
theorem smear_all_links_or_first_drop (s : Smearer) :
    (∀ ctx random entries,
      ((∃ links, s.smear ctx random entries = .ok links) ↔ entries.Pairwise fun a b => a.1 ≤ b.1) ∧
        (∀ links, s.smear ctx random entries = .ok links → OneLinkPerHit entries links) ∧
        ((¬ entries.Pairwise fun a b => a.1 ≤ b.1) →
          ∃ place refused, s.smear ctx random entries = .error refused ∧ FirstDrop entries place refused)) ∧
      ∀ (ctx : EventContext) (store : EventStore Collection),
        (∀ hits, store.lookup s.input = some ⟨.hits, hits⟩ → ∃ edits, hits = SortedMultimap.afterEdits edits) →
          (s.execute ctx store).1 ≠ .ok .abort := by
  refine ⟨fun ctx random entries => ⟨s.smear_ok_iff ctx random entries, ?_, ?_⟩, ?_⟩
  · intro links hok
    rcases s.smear_cases ctx random entries with ⟨links', hok', -, hlist⟩ | ⟨place, refused, herr, -⟩
    · rw [hok] at hok'
      cases hok'
      exact s.oneLinkPerHit_of_toList_eq ctx random entries hlist
    · rw [hok] at herr
      cases herr
  · intro hunordered
    rcases s.smear_cases ctx random entries with ⟨links, -, hord, -⟩ | hdrop
    · exact absurd hord hunordered
    · exact hdrop
  · intro ctx store hbuilt habort
    obtain ⟨hits, hinput, hwrong⟩ := exists_unordered_of_abort habort
    obtain ⟨edits, rfl⟩ := hbuilt hits hinput
    exact hwrong (SortedMultimap.ordered_afterEdits edits)

/-- Three hits whose addresses fall. The second one is handed back, with the address of the first. If the same hits are collected
by edits, one of them refused, the smearer does not give up on them. -/
theorem smear_all_links_or_first_drop_reversed :
    let hit : UInt64 → GeometryId × Hit Float := fun n =>
      (⟨n⟩, ⟨⟨⟨n⟩, .fixed .identity⟩, ⟨0, 0, 0⟩, ⟨0, 0, 1⟩, 1, 0, 0⟩)
    let s : Smearer := ⟨"hits", "sourcelinks", ⟨0, 0.1⟩, {}, by decide, by decide, by decide⟩
    let edits : List (SortedMultimap.Edit GeometryId (Hit Float)) :=
      [.fromUnsorted [hit 3, hit 2], .insertSortedEnd (hit 1).1 (hit 1).2, .insert (hit 1).1 (hit 1).2]
    (∃ refused, s.smear {} (s.random.stream 0) [hit 3, hit 2, hit 1] = .error refused ∧ refused.last = ⟨3⟩ ∧
        refused.key = ⟨2⟩ ∧ refused.value.hitIndex = 1) ∧
      (s.execute {} (EventStore.empty.put "hits" ⟨.hits, SortedMultimap.afterEdits edits⟩)).1 ≠ .ok .abort := by
  intro hit s edits
  have h := smear_all_links_or_first_drop s
  constructor
  · obtain ⟨place, refused, herr, hdrop⟩ := (h.1 {} (s.random.stream 0) [hit 3, hit 2, hit 1]).2.2 (by decide)
    obtain ⟨hpos, hlast⟩ := hdrop.last_of
    obtain ⟨e, he, hkey, hindex, -, -⟩ := hdrop.key_of
    -- The hits before a later place are out of order already.
    match place, hpos with
    | 1, _ =>
      have hsecond : e = hit 2 := (Option.some.inj he).symm
      exact ⟨refused, herr, (Option.some.inj hlast).symm, hkey.trans (congrArg Prod.fst hsecond), hindex⟩
    | 2, _ => exact absurd hdrop.ordered_before (by decide)
    | n + 3, _ => nomatch he
  · refine h.2 {} _ fun hits hinput => ⟨edits, ?_⟩
    have hput := EventStore.lookup_put_self EventStore.empty "hits"
      (⟨.hits, SortedMultimap.afterEdits edits⟩ : Sigma Collection)
    cases Option.some.inj (hinput.symm.trans hput)
    rfl

end Smearer

end DetectorReadout
