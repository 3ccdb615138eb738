import DetectorReadout.Proofs.SourceLinks

/-!
# The noise of a hit

Every hit of an event takes one pair of standard normal numbers from the random sequence of the event, whatever its surface,
its position and the resolutions are. So the sequence stands at the same place before hit number `i` in every run
(`Smearer.foldlM_advance`), and the noise of this hit is a function of the master seed, the event number and `i` (`noise`). The
resolutions scale it, and the position of the hit on its surface is added (`Smearer.values_eq_seen_add_noise`).
-/

namespace DetectorReadout

/-- The pair of standard normal numbers that the hit at a place of its collection gets in an event. -/
def noise (seed event : UInt64) (place : Nat) : Float × Float :=
  Normal.nextPair (Normal.behindPair^[place] (RandomService.stream ⟨seed⟩ event))

namespace Smearer

/-- The first hits of a list in order give the first links. -/
theorem smear_take (s : Smearer) (ctx : GeometryContext) (random : Keystream) {entries : List (GeometryId × Hit Float)}
    (hord : entries.Pairwise fun a b => a.1 ≤ b.1) (n : Nat) :
    ∃ first, s.smear ctx random (entries.take n) = .ok first ∧
      SortedMultimap.toList first = (s.links ctx random entries).take n := by
  obtain ⟨first, hok, hlist⟩ := s.smear_of_ordered ctx random (hord.sublist (List.take_sublist n entries))
  exact ⟨first, hok, hlist.trans (s.links_take ctx random entries n)⟩

/-- The noise of a hit depends on the master seed, the event number and the place of the hit in its collection, and on nothing
else. Every smearer, whatever its names and resolutions, under whatever conditions, adds to the position of hit number `i` on
its surface the noise number `i` of the event, scaled by its resolutions. So hits that come behind do not change the links of
those before: the first hits give the first links. -/
theorem values_eq_seen_add_noise (s : Smearer) (ctx : EventContext) {hits : Hits Float}
    (hord : SortedMultimap.Ordered hits) :
    ∃ links : SourceLinks,
      s.smear ctx.conditions (s.random.stream ctx.event) (SortedMultimap.toList hits) = .ok links ∧
        (∀ store : EventStore Collection, store.lookup s.input = some ⟨.hits, hits⟩ → store.lookup s.output = none →
          s.execute ctx store = (.ok .success, store.put s.output ⟨.links, links⟩)) ∧
        SortedMultimap.size links = SortedMultimap.size hits ∧
        (∀ i (e : GeometryId × Hit Float), (SortedMultimap.toList hits)[i]? = some e →
          ∃ link : SourceLink, (SortedMultimap.toList links)[i]? = some (e.1, link) ∧
            link.values =
              ⟨(e.2.surface.toLocal ctx.conditions e.2.position e.2.direction).position.x +
                  s.sigma.x * (noise s.random.seed ctx.event i).1,
                (e.2.surface.toLocal ctx.conditions e.2.position e.2.direction).position.y +
                  s.sigma.y * (noise s.random.seed ctx.event i).2⟩) ∧
        ∀ n, ∃ first,
          s.smear ctx.conditions (s.random.stream ctx.event) ((SortedMultimap.toList hits).take n) = .ok first ∧
            SortedMultimap.toList first = (SortedMultimap.toList links).take n := by
  obtain ⟨links, hok, hlist⟩ := s.smear_of_ordered ctx.conditions (s.random.stream ctx.event) hord
  refine ⟨links, hok, fun store => execute_of_smear_ok hok, (s.oneLinkPerHit_of_toList_eq _ _ _ hlist).size_eq, ?_, ?_⟩
  · intro i e he
    have hlink := s.links_getElem? ctx.conditions (s.random.stream ctx.event) (SortedMultimap.toList hits) i
    rw [← hlist, he] at hlink
    exact ⟨_, hlink, rfl⟩
  · rw [hlist]
    exact s.smear_take ctx.conditions _ hord

/-- Two hits on one surface, smeared along the second coordinate only. The second hit gets noise number one of the event. -/
theorem values_eq_seen_add_noise_second_hit :
    let hit : Float → Hit Float := fun x => ⟨⟨⟨1⟩, .fixed .identity⟩, ⟨x, 0, 0⟩, ⟨0, 0, 1⟩, 1, 0, 0⟩
    let s : Smearer := ⟨"hits", "sourcelinks", ⟨0, 0.1⟩, ⟨7⟩, by decide, by decide, by decide⟩
    let store : EventStore Collection := EventStore.empty.put "hits" ⟨.hits, Hits.ofList [hit 0.5, hit 1.5]⟩
    let seen : Vec2 Float := ((hit 1.5).surface.toLocal {} (hit 1.5).position (hit 1.5).direction).position
    ∃ links : SourceLinks, s.execute ⟨3, 5, {}⟩ store = (.ok .success, store.put "sourcelinks" ⟨.links, links⟩) ∧
      ∃ link : SourceLink, (SortedMultimap.toList links)[1]? = some (⟨1⟩, link) ∧
        link.values = ⟨seen.x + 0 * (noise 7 5 1).1, seen.y + 0.1 * (noise 7 5 1).2⟩ := by
  intro hit s store seen
  have hinput : store.lookup s.input = some ⟨.hits, Hits.ofList [hit 0.5, hit 1.5]⟩ := EventStore.lookup_put_self _ _ _
  have hfree : store.lookup s.output = none := EventStore.lookup_put_of_ne _ _ (by decide)
  have hord : SortedMultimap.Ordered (Hits.ofList [hit 0.5, hit 1.5]) := (stableSort_mergeSort _).ordered
  have hlist : SortedMultimap.toList (Hits.ofList [hit 0.5, hit 1.5]) = [(⟨1⟩, hit 0.5), (⟨1⟩, hit 1.5)] :=
    List.mergeSort_of_pairwise (by simp +decide [hit])
  obtain ⟨links, -, hrun, -, hvalues, -⟩ := values_eq_seen_add_noise s ⟨3, 5, {}⟩ hord
  exact ⟨links, hrun store hinput hfree, hvalues 1 (⟨1⟩, hit 1.5) (by rw [hlist]; rfl)⟩

end Smearer

end DetectorReadout
