import DetectorReadout.Proofs.DetectorContents
import DetectorReadout.Proofs.ElementHistory
import DetectorReadout.Proofs.HitOrder
import DetectorReadout.Proofs.RigidMotion

/-!
# Alignment epochs do not interfere

Under the conditions of one epoch, no placement that was given for another epoch reaches a result. A hit gives the same cluster and
the same source link whether its surface keeps the placements of the other epochs or not (`Digitizer.digitize_seenIn`,
`Smearer.links_seenIn`). So if two detectors differ only in placements of other epochs, the same hits on both give clusters and
links that differ in nothing but the surfaces that they refer to.
-/

namespace DetectorReadout

section

variable {α : Type} [Scalar α]

/-- The hit on a surface without the placements of all other epochs. -/
def Hit.seenIn (epoch : UInt64) (h : Hit α) : Hit α := { h with surface := h.surface.seenIn epoch }

/-- The cluster on a surface without the placements of all other epochs. -/
def Cluster.seenIn (epoch : UInt64) (c : Cluster α) : Cluster α := { c with surface := c.surface.seenIn epoch }

/-- The link on a surface without the placements of all other epochs. -/
def SourceLink.seenIn (epoch : UInt64) (l : SourceLink) : SourceLink := { l with surface := l.surface.seenIn epoch }

/-- Maps that are equal once their values are replaced agree in everything that the replacement leaves alone. -/
theorem SortedMultimap.map_eq_of_mapValues_eq {κ ν β : Type} {m m' : SortedMultimap κ ν} {f : ν → ν} {g : κ × ν → β}
    (hg : ∀ e, g (e.1, f e.2) = g e) (h : m.mapValues f = m'.mapValues f) : m.toList.map g = m'.toList.map g := by
  have hmap (m : SortedMultimap κ ν) : (m.mapValues f).toList.map g = m.toList.map g := by
    rw [toList_mapValues, List.map_map]
    exact List.map_congr_left fun e _ => hg e
  rw [← hmap m, h, hmap]

/-! ## Clusters and links under the conditions of one epoch -/

/-- The clusters of hits do not depend on the placements of other epochs. -/
theorem Digitizer.digitize_seenIn (d : Digitizer α) (ctx : GeometryContext) (hits : Hits α) :
    d.digitize ctx (SortedMultimap.mapValues hits (Hit.seenIn ctx.epoch)) =
      SortedMultimap.mapValues (d.digitize ctx hits) (Cluster.seenIn ctx.epoch) :=
  digitize_mapValues fun e _ =>
    d.cluster?_of_alike ctx e.1 (f := fun s => s.seenIn ctx.epoch) rfl (e.2.surface.readout?_seenIn ctx.epoch)
      (e.2.surface.thickness?_seenIn ctx.epoch) (e.2.surface.toLocal_seenIn ctx e.2.position e.2.direction) rfl rfl

namespace Smearer

variable (s : Smearer) (ctx : GeometryContext)

theorem link_seenIn (index : Nat) (id : GeometryId) (hit : Hit Float) (noise : Float × Float) :
    s.link ctx index id (hit.seenIn ctx.epoch) noise = (s.link ctx index id hit noise).seenIn ctx.epoch := by
  have hseen := hit.surface.toLocal_seenIn ctx hit.position hit.direction
  simp only [link, Hit.seenIn, SourceLink.seenIn, hseen]

/-- The links of hits do not depend on the placements of other epochs. -/
theorem links_seenIn (random : Keystream) (entries : List (GeometryId × Hit Float)) :
    s.links ctx random (entries.map fun e => (e.1, e.2.seenIn ctx.epoch)) =
      (s.links ctx random entries).map fun e => (e.1, e.2.seenIn ctx.epoch) := by
  refine List.ext_getElem? fun i => ?_
  rw [links_getElem?, List.getElem?_map, List.getElem?_map, links_getElem?]
  cases entries[i]? with
  | none => rfl
  | some e => exact congrArg (fun l => some (e.1, l)) (s.link_seenIn ctx i e.1 e.2 _)

end Smearer

/-! ## The same hits on two detectors -/

/-- Replacing hits by hits on surfaces with the same addresses replaces them in the collection. -/
theorem Hits.ofList_map {f : Hit α → Hit α} (hid : ∀ h, (f h).surface.id = h.surface.id) (l : List (Hit α)) :
    ofList (l.map f) = SortedMultimap.mapValues (ofList l) f := by
  have hlog : (l.map f).map keyed = (l.map keyed).map fun e => (e.1, f e.2) := by
    rw [List.map_map, List.map_map]
    exact List.map_congr_left fun h _ => congrArg (fun id => (id, f h)) (hid h)
  have hmapped := (stableSort_ofList l).mapValues f
  rw [← hlog, ← SortedMultimap.toList_mapValues] at hmapped
  exact SortedMultimap.toList_inj ((stableSort_ofList (l.map f)).unique hmapped)

namespace Detector

/-- The hit on the surface that the detector has under the address of the hit. -/
def place? (d : Detector α) (h : Hit α) : Option (Hit α) := (d.find? h.surface.id).map fun s => { h with surface := s }

/-- The hits of a list on the surfaces of the detector. -/
def hitsOf (d : Detector α) (l : List (Hit α)) : Hits α := Hits.ofList (l.filterMap d.place?)

/-- Detectors with the same surfaces, up to the placements of other epochs. -/
def AlikeIn (epoch : UInt64) (d d' : Detector α) : Prop :=
  ∀ id, (d.find? id).map (fun s => s.seenIn epoch) = (d'.find? id).map fun s => s.seenIn epoch

theorem mapValues_hitsOf (d : Detector α) (epoch : UInt64) (l : List (Hit α)) :
    SortedMultimap.mapValues (d.hitsOf l) (Hit.seenIn epoch) =
      Hits.ofList (l.filterMap fun h =>
        ((d.find? h.surface.id).map fun s => s.seenIn epoch).map fun s => { h with surface := s }) := by
  rw [hitsOf, ← Hits.ofList_map (f := Hit.seenIn epoch) fun _ => rfl, List.map_filterMap]
  congr 2
  funext h
  rw [place?, Option.map_map, Option.map_map]
  rfl

/-- An epoch sees the same hits on detectors that are alike in it. -/
theorem AlikeIn.mapValues_hitsOf {epoch : UInt64} {d d' : Detector α} (h : AlikeIn epoch d d') (l : List (Hit α)) :
    SortedMultimap.mapValues (d.hitsOf l) (Hit.seenIn epoch) =
      SortedMultimap.mapValues (d'.hitsOf l) (Hit.seenIn epoch) := by
  rw [Detector.mapValues_hitsOf, Detector.mapValues_hitsOf]
  simp only [h _]

/-- Surfaces that differ only in the placements of other epochs make detectors that do. -/
theorem alikeIn_ofSurfaces {epoch : UInt64} {l l' : List (Surface α)}
    (h : (l.map fun s => s.seenIn epoch) = l'.map fun s => s.seenIn epoch) :
    AlikeIn epoch (ofSurfaces l) (ofSurfaces l') := by
  intro id
  -- The address of a surface is the same in every epoch, so the search may be made among what the epoch sees.
  have hfind (l : List (Surface α)) : ((ofSurfaces l).find? id).map (fun s => s.seenIn epoch) =
      (l.map fun s => s.seenIn epoch).find? fun s => s.id = id := by
    rw [find?_ofSurfaces, List.find?_map]
    rfl
  rw [hfind, hfind, h]

end Detector

end

/-- Collections that an epoch sees as the same give links that it sees as the same. -/
theorem Smearer.exists_links_of_mapValues_eq (s : Smearer) (ctx : EventContext) {a b : Hits Float}
    (ha : SortedMultimap.Ordered a) (hb : SortedMultimap.Ordered b)
    (hab : SortedMultimap.mapValues a (Hit.seenIn ctx.conditions.epoch) =
      SortedMultimap.mapValues b (Hit.seenIn ctx.conditions.epoch)) :
    ∃ links links' : SourceLinks,
      s.smear ctx.conditions (s.random.stream ctx.event) (SortedMultimap.toList a) = .ok links ∧
        s.smear ctx.conditions (s.random.stream ctx.event) (SortedMultimap.toList b) = .ok links' ∧
        SortedMultimap.mapValues links (SourceLink.seenIn ctx.conditions.epoch) =
          SortedMultimap.mapValues links' (SourceLink.seenIn ctx.conditions.epoch) := by
  obtain ⟨links, hok, hlist⟩ := s.smear_of_ordered ctx.conditions (s.random.stream ctx.event) ha
  obtain ⟨links', hok', hlist'⟩ := s.smear_of_ordered ctx.conditions (s.random.stream ctx.event) hb
  refine ⟨links, links', hok, hok', SortedMultimap.toList_inj ?_⟩
  rw [SortedMultimap.toList_mapValues, SortedMultimap.toList_mapValues, hlist, hlist', ← links_seenIn, ← links_seenIn,
    ← SortedMultimap.toList_mapValues, ← SortedMultimap.toList_mapValues, hab]

namespace Detector

/-- Alignment epochs do not interfere. However an element comes about, in every epoch it stands at the placement that was given last
for this epoch, or at its nominal one if none was, and a surface on it stands there too. So take two detectors that differ only in
the placements of epochs other than one, and the same hits on both. Under the conditions of this epoch every digitizer makes
clusters of them that differ in nothing but the surfaces that they refer to, and these only in the placements of other epochs;
and so does every smearer with links, which it adds to the events that hold the hits. -/
theorem epochs_do_not_interfere :
    (∀ identifier nominal thickness changes id ctx,
      let element : PlanarElement Float := .made identifier nominal thickness changes
      element.placement ctx = (lastGiven? (PlanarElement.Change.placement? ctx.epoch) changes).getD nominal ∧
        Surface.placement ⟨id, .planar element⟩ ctx = element.placement ctx) ∧
    ∀ (epoch : UInt64) (d d' : Detector Float), AlikeIn epoch d d' → ∀ l : List (Hit Float),
      (∀ digitizer : Digitizer Float,
        SortedMultimap.mapValues (digitizer.digitize ⟨epoch⟩ (d.hitsOf l)) (Cluster.seenIn epoch) =
          SortedMultimap.mapValues (digitizer.digitize ⟨epoch⟩ (d'.hitsOf l)) (Cluster.seenIn epoch)) ∧
      ∀ (s : Smearer) (ctx : EventContext), ctx.conditions.epoch = epoch → ∃ links links' : SourceLinks,
        s.smear ctx.conditions (s.random.stream ctx.event) (SortedMultimap.toList (d.hitsOf l)) = .ok links ∧
          s.smear ctx.conditions (s.random.stream ctx.event) (SortedMultimap.toList (d'.hitsOf l)) = .ok links' ∧
          SortedMultimap.mapValues links (SourceLink.seenIn epoch) =
            SortedMultimap.mapValues links' (SourceLink.seenIn epoch) ∧
          ∀ store : EventStore Collection, store.lookup s.output = none →
            (store.lookup s.input = some ⟨.hits, d.hitsOf l⟩ →
              s.execute ctx store = (.ok .success, store.put s.output ⟨.links, links⟩)) ∧
            (store.lookup s.input = some ⟨.hits, d'.hitsOf l⟩ →
              s.execute ctx store = (.ok .success, store.put s.output ⟨.links, links'⟩)) := by
  refine ⟨fun identifier nominal thickness changes id ctx => ?_, fun epoch d d' halike l => ⟨fun digitizer => ?_, ?_⟩⟩
  · exact ⟨PlanarElement.placement_made identifier nominal thickness changes ctx, rfl⟩
  · rw [← digitizer.digitize_seenIn ⟨epoch⟩, ← digitizer.digitize_seenIn ⟨epoch⟩, halike.mapValues_hitsOf]
  · rintro s ctx rfl
    have hord (d : Detector Float) : SortedMultimap.Ordered (d.hitsOf l) := (Hits.stableSort_ofList _).ordered
    obtain ⟨links, links', hok, hok', hlinks⟩ :=
      s.exists_links_of_mapValues_eq ctx (hord d) (hord d') (halike.mapValues_hitsOf l)
    exact ⟨links, links', hok, hok', hlinks, fun store hfree =>
      ⟨fun hinput => Smearer.execute_of_smear_ok hok hinput hfree,
        fun hinput => Smearer.execute_of_smear_ok hok' hinput hfree⟩⟩

/-- A module that is read out and realigned for epoch 7, and for epoch 0 on one of two detectors. There it stands elsewhere in
epoch 0, but in epoch 7 a hit on it gives the same cluster and the same smeared values on both detectors. -/
theorem epochs_do_not_interfere_realigned :
    let x : Binning Float := ⟨.x, .clamp, #[-1, 0, 1], true, by decide⟩
    let y : Binning Float := ⟨.y, .clamp, #[-1, 0, 1], true, by decide⟩
    let module : ReadoutModule Float := ⟨⟨x, y, none, rfl, rfl⟩, 0.15, .positive, 0, by decide, by decide⟩
    let once : List (PlanarElement.Change Float) := [.alignment 7 (.ofShift ⟨0.5, 0, 0⟩), .readout module]
    let twice := once ++ [.alignment 0 (.ofShift ⟨5, 0, 0⟩)]
    let element : List (PlanarElement.Change Float) → PlanarElement Float := .made 1 .identity 0.3
    let d : List (PlanarElement.Change Float) → Detector Float := fun changes =>
      ofSurfaces [⟨⟨1⟩, .planar (element changes)⟩]
    let hits : List (Hit Float) := [⟨⟨⟨1⟩, .fixed .identity⟩, ⟨1, 0.25, 0⟩, ⟨0, 0, 1⟩, 1, 0, 0⟩]
    let digitizer : Digitizer Float :=
      ⟨"hits", "clusters", (PlanarStepper.mk 1e-9).toStepper, {}, by decide, by decide⟩
    let s : Smearer := ⟨"hits", "sourcelinks", ⟨0, 0.1⟩, {}, by decide, by decide, by decide⟩
    let found : List (PlanarElement.Change Float) → Clusters Float := fun changes =>
      digitizer.digitize ⟨7⟩ ((d changes).hitsOf hits)
    (element once).placement ⟨0⟩ = .identity ∧ (element twice).placement ⟨0⟩ = .ofShift ⟨5, 0, 0⟩ ∧
      (SortedMultimap.toList (found once)).map (fun e => (e.1, e.2.position, e.2.channel, e.2.cells)) =
        (SortedMultimap.toList (found twice)).map (fun e => (e.1, e.2.position, e.2.channel, e.2.cells)) ∧
      SortedMultimap.size (found once) = 1 ∧
      ∃ links links' : SourceLinks,
        s.smear ⟨7⟩ (s.random.stream 3) (SortedMultimap.toList ((d once).hitsOf hits)) = .ok links ∧
          s.smear ⟨7⟩ (s.random.stream 3) (SortedMultimap.toList ((d twice).hitsOf hits)) = .ok links' ∧
          (SortedMultimap.toList links).map (fun e => (e.1, e.2.values)) =
            (SortedMultimap.toList links').map fun e => (e.1, e.2.values) := by
  intro x y module once twice element d hits digitizer s found
  obtain ⟨hplacement, hinterfere⟩ := epochs_do_not_interfere
  have halike : AlikeIn 7 (d once) (d twice) := by
    have helement : (element twice).seenIn 7 = (element once).seenIn 7 :=
      (element once).seenIn_withAlignment (by decide) _
    refine alikeIn_ofSurfaces ?_
    simp only [List.map_cons, List.map_nil, Surface.seenIn, Support.seenIn, helement]
  obtain ⟨hclusters, hlinks⟩ := hinterfere 7 (d once) (d twice) halike hits
  obtain ⟨links, links', hok, hok', hsame, -⟩ := hlinks s ⟨0, 3, ⟨7⟩⟩ rfl
  refine ⟨(hplacement 1 .identity 0.3 once ⟨1⟩ ⟨0⟩).1, (hplacement 1 .identity 0.3 twice ⟨1⟩ ⟨0⟩).1, ?_, ?_,
    links, links', hok, hok', ?_⟩
  · exact SortedMultimap.map_eq_of_mapValues_eq (fun _ => rfl) (hclusters digitizer)
  · decide +kernel
  · exact SortedMultimap.map_eq_of_mapValues_eq (fun _ => rfl) hsame

end Detector

end DetectorReadout
