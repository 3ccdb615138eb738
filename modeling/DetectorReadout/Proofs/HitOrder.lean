import DetectorReadout.Proofs.DigitizerOrder
import DetectorReadout.Proofs.SourceLinks

/-!
# The order in which hits are produced

A collection of hits is the stable sort of the list that it was made of, by the addresses of the surfaces. So two lists make
the same collection exactly if they hold the same hits and agree on the order of the hits on each surface
(`Hits.ofList_eq_iff`), and whatever is made of the collection, clusters and source links, does not depend on how hits on
different surfaces are mixed (`Hits.outputs_eq_of_sameBySurface`).
-/

namespace DetectorReadout

namespace Hits

variable {α : Type} [Scalar α]

/-- Lists of the same hits, with those on each surface in the same order. -/
structure SameBySurface (a b : List (Hit α)) : Prop where
  /-- Each hit occurs equally often. -/
  perm : a.Perm b
  /-- The hits with one address stand in the same order. -/
  stable : ∀ id, (a.filter fun h => h.surface.id = id) = b.filter fun h => h.surface.id = id

/-- Two hits on different surfaces, one produced right behind the other, may be exchanged. -/
theorem sameBySurface_swap {x y : Hit α} (hne : x.surface.id ≠ y.surface.id) (l : List (Hit α)) :
    SameBySurface (x :: y :: l) (y :: x :: l) where
  perm := List.Perm.swap y x l
  stable id := by
    by_cases hx : x.surface.id = id
    · have hy : y.surface.id ≠ id := fun hy => hne (hx.trans hy.symm)
      simp only [List.filter_cons, hx, hy, decide_true, decide_false, if_true, Bool.false_eq_true, if_false]
    · simp only [List.filter_cons, hx, decide_false, Bool.false_eq_true, if_false]

/-- A hit with the address of its surface. -/
def keyed (h : Hit α) : GeometryId × Hit α := (h.surface.id, h)

/-- A collection of hits is the stable sort of its hits under the addresses of their surfaces. -/
theorem stableSort_ofList (hits : List (Hit α)) :
    StableSort (hits.map keyed) (SortedMultimap.toList (ofList hits)) :=
  stableSort_mergeSort _

/-- The hits under one address are the hits on the surfaces with this address. -/
theorem filter_keyed (hits : List (Hit α)) (id : GeometryId) :
    ((hits.map keyed).filter fun e => e.1 = id) = (hits.filter fun h => h.surface.id = id).map keyed := by
  rw [List.filter_map]
  rfl

/-- Forgetting the addresses gives the hits back. -/
theorem map_snd_keyed (hits : List (Hit α)) : (hits.map keyed).map (·.2) = hits := by
  rw [List.map_map]
  exact List.map_id hits

/-- Collections of hits are equal exactly if the lists that they were made of hold the same hits, with those on each surface
in the same order. -/
theorem ofList_eq_iff {a b : List (Hit α)} : ofList a = ofList b ↔ SameBySurface a b := by
  constructor
  · intro h
    have hb := stableSort_ofList b
    rw [← h] at hb
    have ha := stableSort_ofList a
    refine ⟨?_, fun id => ?_⟩
    · have hperm := (ha.perm.symm.trans hb.perm).map (·.2)
      rwa [map_snd_keyed, map_snd_keyed] at hperm
    · have hfilter := congrArg (List.map (·.2)) ((ha.stable id).symm.trans (hb.stable id))
      rwa [filter_keyed, filter_keyed, map_snd_keyed, map_snd_keyed] at hfilter
  · intro h
    refine SortedMultimap.toList_inj ((stableSort_ofList a).unique ?_)
    have hb := stableSort_ofList b
    refine ⟨hb.ordered, hb.perm.trans (h.perm.symm.map keyed), fun id => ?_⟩
    rw [hb.stable, filter_keyed, filter_keyed, h.stable]

/-- The order in which hits on different surfaces are produced does not matter. Two lists of the same hits, with those on each
surface in the same order, make the same collection, with each hit once under the address of its surface. A digitizer makes the
same clusters of both, the stable sort of what the hits give. A smearer makes the same links of both, one for every hit, and adds
them to every event that holds one of the collections. -/
theorem outputs_eq_of_sameBySurface {a b : List (Hit Float)} (h : SameBySurface a b) :
    ofList a = ofList b ∧
      StableSort (a.map keyed) (SortedMultimap.toList (ofList a)) ∧
      (∀ (d : Digitizer Float) ctx,
        d.digitize ctx (ofList a) = d.digitize ctx (ofList b) ∧
          StableSort ((a.map keyed).filterMap (d.keyedCluster? ctx))
            (SortedMultimap.toList (d.digitize ctx (ofList b)))) ∧
      ∀ (s : Smearer) (ctx : EventContext), ∃ links : SourceLinks,
        Smearer.OneLinkPerHit (SortedMultimap.toList (ofList a)) links ∧
          s.smear ctx.conditions (s.random.stream ctx.event) (SortedMultimap.toList (ofList a)) = .ok links ∧
          s.smear ctx.conditions (s.random.stream ctx.event) (SortedMultimap.toList (ofList b)) = .ok links ∧
          ∀ store : EventStore Collection,
            store.lookup s.input = some ⟨.hits, ofList a⟩ ∨ store.lookup s.input = some ⟨.hits, ofList b⟩ →
            store.lookup s.output = none →
              s.execute ctx store = (.ok .success, store.put s.output ⟨.links, links⟩) := by
  have hsame : ofList a = ofList b := ofList_eq_iff.2 h
  have hsort := stableSort_ofList a
  refine ⟨hsame, hsort, fun d ctx => ?_, fun s ctx => ?_⟩
  · rw [← hsame]
    exact ⟨rfl, (d.stableSort_digitize ctx hsort).1⟩
  · obtain ⟨links, hok, hlist⟩ := s.smear_of_ordered ctx.conditions (s.random.stream ctx.event) hsort.ordered
    rw [← hsame]
    exact ⟨links, s.oneLinkPerHit_of_toList_eq _ _ _ hlist, hok, hok, fun store hinput hfree =>
      Smearer.execute_of_smear_ok hok (or_self_iff.1 hinput) hfree⟩

/-- Of three hits, two are on one surface. It makes no difference whether the third one comes before or between them. -/
theorem outputs_eq_of_sameBySurface_three_hits :
    let hit : UInt64 → Float → Hit Float := fun n x => ⟨⟨⟨n⟩, .fixed .identity⟩, ⟨x, 0, 0⟩, ⟨0, 0, 1⟩, 1, 0, 0⟩
    let a := [hit 2 0.5, hit 1 1.5, hit 2 2.5]
    let b := [hit 1 1.5, hit 2 0.5, hit 2 2.5]
    let s : Smearer := ⟨"hits", "sourcelinks", ⟨0, 0.1⟩, {}, by decide, by decide, by decide⟩
    let store : List (Hit Float) → EventStore Collection := fun hits => EventStore.empty.put "hits" ⟨.hits, ofList hits⟩
    ofList a = ofList b ∧ ∃ links : SourceLinks,
      s.execute {} (store a) = (.ok .success, (store a).put "sourcelinks" ⟨.links, links⟩) ∧
        s.execute {} (store b) = (.ok .success, (store b).put "sourcelinks" ⟨.links, links⟩) := by
  intro hit a b s store
  have hinput (hits : List (Hit Float)) : (store hits).lookup s.input = some ⟨.hits, ofList hits⟩ :=
    EventStore.lookup_put_self _ _ _
  have hfree (hits : List (Hit Float)) : (store hits).lookup s.output = none :=
    EventStore.lookup_put_of_ne _ _ (by decide)
  obtain ⟨hsame, -, -, hsmear⟩ :=
    outputs_eq_of_sameBySurface (a := a) (b := b) (sameBySurface_swap (by decide) [hit 2 2.5])
  obtain ⟨links, -, -, -, hrun⟩ := hsmear s {}
  exact ⟨hsame, links, hrun (store a) (.inl (hinput a)) (hfree a), hrun (store b) (.inr (hinput b)) (hfree b)⟩

end Hits

end DetectorReadout
