import Gazetteer.Proofs.Index.Repetition
import Gazetteer.Proofs.Indexer.Frame
import Gazetteer.Proofs.Indexer.Incremental

/-!
# Updates that change nothing

An update of a note that has no layers and had none is not carried out: there is nothing to put into
the index and nothing to take out of it. Indexing everything instead does not change the index
either, if the layers of the other notes are the ones they were (`layersIn_of_changedAt`) and links
lead from notes with layers to the same notes with layers: then the candidates are those from which
the index was made, and a second reconciliation with the same candidates keeps every layer
(`LayerIndex.WF.isUnchanged_again`). A note that appears or goes away can turn links of
other notes to another target, so a note without layers can change relations between markers of
others.
-/

namespace Gazetteer

variable {notes notes' : Notes} {source : SourceRef} {ls : List Layer}

namespace Indexer

variable {x : Indexer} {p : PendingUpdate} {scope : UpdateScope} {d : Applied}

/-! ## Updates that are not carried out -/

theorem next_fileUpdate_eq_none_iff {ds : List DroppedFact} :
    (x.fileUpdate notes source ls ds).next = none ↔
      ls = [] ∧ x.index.hasLayersOf source.path = false := by
  simp [fileUpdate]

/-- The update of a note without layers is not carried out if none are indexed for it. -/
theorem exists_prepare_file_next_eq_none
    (hbuilt : (x.rebuild notes source).toOption.any (fun built => built.1.isEmpty) = true)
    (hhas : x.index.hasLayersOf source.path = false) :
    ∃ p, (x.prepare notes (.file source)).2 = .ok p ∧ p.next = none := by
  obtain ⟨built, hr, hempty⟩ := exists_of_any_toOption hbuilt
  exact ⟨_, prepareFile_eq_ok_iff.2 ⟨built.1, built.2, hr, rfl⟩,
    next_fileUpdate_eq_none_iff.2 ⟨List.isEmpty_iff.1 hempty, hhas⟩⟩

/-- A note whose update is not carried out has no indexed layers and none that would be. -/
theorem no_layers_of_next_eq_none
    (hscope : scope = .file source ∨ scope = .removal source ∧ source ∉ notes.sources)
    (hp : (x.prepare notes scope).2 = .ok p) (hn : p.next = none) :
    x.index.hasLayersOf source.path = false ∧
      ∀ b ∈ x.layersIn notes, b.source? ≠ some source := by
  rcases hscope with rfl | ⟨rfl, hgone⟩
  · obtain ⟨ls, ds, hbuilt, rfl⟩ := prepareFile_eq_ok_iff.1 hp
    obtain ⟨rfl, hhas⟩ := next_fileUpdate_eq_none_iff.1 hn
    refine ⟨hhas, fun b hb hs => ?_⟩
    obtain ⟨t, -, ls, ds', hok, hmem⟩ := mem_layersIn_iff.1 hb
    rw [source?_of_mem_buildIndexed hok hmem, Option.some.injEq] at hs
    exact List.not_mem_nil ((mem_rebuild_iff hbuilt).2 ⟨ls, ds', hs ▸ hok, hmem⟩)
  · obtain rfl : (x.prepareRemoval notes source).2 = p := Except.ok.inj hp
    refine ⟨(next_prepareRemoval_eq_none_iff ..).1 hn, fun b hb hs => ?_⟩
    obtain ⟨t, ht, hs'⟩ := mem_sources_of_mem_layersIn hb
    rw [hs, Option.some.injEq] at hs'
    exact hgone (hs' ▸ ht)

/-- Indexing everything again, with the same layers and relations, keeps everything. -/
theorem isUnchanged_update_full {d' : Applied} (hi : x.index.WF)
    (h : x.update notes .full = .ok d) (h' : d.indexer.advance.update notes' .full = .ok d')
    (hlayers : x.layersIn notes' = x.layersIn notes)
    (hpairs : (LinkGraph.ofLayers notes' (x.layersIn notes')).pairs =
      (LinkGraph.ofLayers notes (x.layersIn notes)).pairs)
    (hicon : ∀ m, .marker m ∈ x.layersIn notes → m.icon.HasNumbers) :
    d'.reconciliation.isUnchanged = true := by
  have hlayers' : d.indexer.advance.layersIn notes' = x.layersIn notes := by
    rw [layersIn_advance, layersIn_update h, hlayers]
  have hcandidates : (x.layersIn notes).map d'.indexer.graph.stamp =
      (x.layersIn notes).map d.indexer.graph.stamp := by
    rw [graph_update_full h, graph_update_full h', hlayers']
    rw [hlayers] at hpairs
    exact List.map_congr_left fun b _ => LinkGraph.stamp_congr hpairs b
  have hindex : d.indexer.advance.index =
      (x.index.reconcile ((x.layersIn notes).map d.indexer.graph.stamp)).toIndex :=
    index_update_full h
  rw [reconciliation_update_full h', hlayers', hcandidates, hindex]
  refine hi.isUnchanged_again fun c hc => ?_
  obtain ⟨b, hb, rfl⟩ := List.mem_map.1 (mem_of_mem_distinctLayers hc)
  exact sameContent_stamp_self hb hicon

end Indexer

namespace Session

variable {s : Session} {scope : UpdateScope} {p : PendingUpdate}

/-- **An update that is not carried out would change nothing.** Index everything, change one note,
and prepare an update of it, or a removal if it is gone, that is not carried out. Then indexing
everything keeps all layers and all relations, as long as no icon has an opacity that is no number.
This holds if some layer is indexed for the note in case it had any, links lead from notes with
markers to the same notes with markers as before, and display rules do not ask about links. -/
theorem unchanged_of_nothing_to_update (h : s.Reachable) {d : Indexer.Applied}
    (hd : s.indexer.update s.notes .full = .ok d) (he : s.notes.ChangedAt notes' source)
    (hscope : scope = .file source ∨ scope = .removal source ∧ source ∉ notes'.sources)
    (hp : (d.indexer.prepare notes' scope).2 = .ok p) (hn : p.next = none)
    (hicon : ∀ m, .marker m ∈ s.indexer.layersIn s.notes → m.icon.HasNumbers)
    (hown : (∃ b ∈ s.indexer.layersIn s.notes, b.source? = some source) →
      d.indexer.index.hasLayersOf source.path = true)
    (hlinks : s.notes.KeepsLinks notes' (s.indexer.layersIn s.notes))
    (hrules : s.indexer.rules.askLinks = false) :
    ∃ d', (d.indexer.prepare notes' scope).1.update notes' .full = .ok d' ∧
      d'.reconciliation.isUnchanged = true ∧ d'.indexer.graph.pairs = d.indexer.graph.pairs := by
  have hwf := h.consistent.counted.wf
  obtain ⟨hhas, hno'⟩ := Indexer.no_layers_of_next_eq_none hscope hp hn
  simp only [Indexer.layersIn_update hd] at hno'
  have hno : ∀ b ∈ s.indexer.layersIn s.notes, b.source? ≠ some source := fun b hb hs => by
    rw [hown ⟨b, hb, hs⟩] at hhas
    cases hhas
  have hlayers := Indexer.layersIn_of_changedAt he hrules hno hno'
  have hpairs := Indexer.pairs_layersIn_of_changedAt he hrules hno hno' hlinks
  rw [Indexer.prepare_fst]
  obtain ⟨d', hd'⟩ :=
    Indexer.exists_update_eq_ok (Indexer.prepare_full d.indexer.advance notes')
  refine ⟨d', hd', Indexer.isUnchanged_update_full hwf hd hd' hlayers hpairs hicon, ?_⟩
  rw [Indexer.graph_update_full hd', Indexer.graph_update_full hd, Indexer.layersIn_advance,
    Indexer.layersIn_update hd, hpairs]

/-- Of three notes, one of which links to another, the third one is edited; it has no places. -/
theorem unchanged_of_nothing_to_update_edited :
    let store := NoteStore.ofList
      [("A.md", "[a](geo:1,2) [[C]]"), ("B.md", "no place"), ("C.md", "[c](geo:3,4)")]
    let edited := store.put ⟨"B.md"⟩ "still no place"
    ∃ x d p d', Indexer.new .default = .ok x ∧ x.update store.notes .full = .ok d ∧
      (d.indexer.prepare edited.notes (.file ⟨"B.md"⟩)).2 = .ok p ∧ p.next = none ∧
      (d.indexer.prepare edited.notes (.file ⟨"B.md"⟩)).1.update edited.notes .full = .ok d' ∧
      d'.reconciliation.isUnchanged = true ∧ d'.indexer.graph.pairs = d.indexer.graph.pairs := by
  intro store edited
  have hcontains : store.contains ⟨"B.md"⟩ = true := by decide +kernel
  have hcheck : (Indexer.new .default).toOption.any (fun x =>
      let ls := x.layersIn store.notes
      let i := (LayerIndex.empty.reconcile (ls.map (LinkGraph.ofLinks store.notes ls).stamp)).toIndex
      (x.rebuild edited.notes ⟨"B.md"⟩).toOption.any (fun built => built.1.isEmpty) &&
        decide (i.hasLayersOf "B.md" = false ∧ (∀ b ∈ ls, b.source? ≠ some ⟨"B.md"⟩) ∧
          (∀ m ∈ LinkGraph.markersOf ls, m.icon.HasNumbers) ∧ x.rules.askLinks = false)) = true := by
    decide +kernel
  obtain ⟨x, hx, hcheck⟩ := exists_of_any_toOption hcheck
  obtain ⟨hbuilt, hcheck⟩ := Bool.and_eq_true_iff.1 hcheck
  obtain ⟨hhas, hno, hicon, hrules⟩ := of_decide_eq_true hcheck
  obtain ⟨d, hd⟩ := Indexer.exists_update_eq_ok (Indexer.prepare_full x store.notes)
  have hindex : d.indexer.index.hasLayersOf "B.md" = false := by
    rw [Indexer.index_first_update_full hx hd]
    exact hhas
  rw [← Indexer.rebuild_update hd] at hbuilt
  obtain ⟨p, hp, hn⟩ := Indexer.exists_prepare_file_next_eq_none hbuilt hindex
  obtain ⟨d', hd', hunchanged, hpairs⟩ := unchanged_of_nothing_to_update
    (Reachable.start hx store.notes) hd (store.changedAt_put ⟨"B.md"⟩ "still no place")
    (Or.inl rfl) hp hn (fun m hm => hicon m (LinkGraph.mem_markersOf.2 hm))
    (fun ⟨b, hb, hs⟩ => absurd hs (hno b hb))
    (Notes.keepsLinks_of_resolve_eq (NoteStore.resolve_put hcontains).symm _) hrules
  exact ⟨x, d, p, d', hx, hd, hp, hn, hd', hunchanged, hpairs⟩

/-- A note without places appears, and the link of a marker that led to a marker leads to it. The
update of the note is not carried out, but indexing everything takes the relation away. -/
theorem relation_lost_to_new_note :
    let store := NoteStore.ofList
      [("A.md", "[a](geo:1,2) [[Cafe]]"), ("Notes/Cafe.md", "[c](geo:3,4)")]
    let store' := store.put ⟨"Cafe.md"⟩ "no place here"
    ∃ x d p d', Indexer.new .default = .ok x ∧ x.update store.notes .full = .ok d ∧
      (d.indexer.prepare store'.notes (.file ⟨"Cafe.md"⟩)).2 = .ok p ∧ p.next = none ∧
      (d.indexer.prepare store'.notes (.file ⟨"Cafe.md"⟩)).1.update store'.notes .full = .ok d' ∧
      d'.reconciliation.isUnchanged = false ∧
      d.indexer.graph.pairs.map (fun p => (p.low, p.high)) = [("A.md1200", "Cafe.md3400")] ∧
      d'.indexer.graph.pairs = [] := by
  intro store store'
  have hcheck : (Indexer.new .default).toOption.any (fun x =>
      let ls := x.layersIn store.notes
      let g := LinkGraph.ofLinks store.notes ls
      let i := (LayerIndex.empty.reconcile (ls.map g.stamp)).toIndex
      let ls' := x.layersIn store'.notes
      let g' := LinkGraph.ofLinks store'.notes ls'
      (x.rebuild store'.notes ⟨"Cafe.md"⟩).toOption.any (fun built => built.1.isEmpty) &&
        decide (i.hasLayersOf "Cafe.md" = false ∧
          (i.reconcile (ls'.map g'.stamp)).isUnchanged = false ∧
          g.pairs.map (fun p => (p.low, p.high)) = [("A.md1200", "Cafe.md3400")] ∧
          g'.pairs = [])) = true := by
    decide +kernel
  obtain ⟨x, hx, hcheck⟩ := exists_of_any_toOption hcheck
  obtain ⟨hbuilt, hcheck⟩ := Bool.and_eq_true_iff.1 hcheck
  obtain ⟨hhas, hchanged, hpairs, hpairs'⟩ := of_decide_eq_true hcheck
  obtain ⟨d, hd⟩ := Indexer.exists_update_eq_ok (Indexer.prepare_full x store.notes)
  have hindex := Indexer.index_first_update_full hx hd
  rw [← Indexer.rebuild_update hd] at hbuilt
  rw [← hindex] at hhas
  obtain ⟨p, hp, hn⟩ := Indexer.exists_prepare_file_next_eq_none hbuilt hhas
  obtain ⟨d', hd'⟩ :=
    Indexer.exists_update_eq_ok (Indexer.prepare_full d.indexer.advance store'.notes)
  have hlayers : d.indexer.advance.layersIn store'.notes = x.layersIn store'.notes := by
    rw [Indexer.layersIn_advance, Indexer.layersIn_update hd]
  refine ⟨x, d, p, d', hx, hd, hp, hn, hd', ?_, ?_, ?_⟩
  · rw [Indexer.reconciliation_update_full hd', Indexer.stamp_graph_update_full hd', hlayers,
      show d.indexer.advance.index = _ from hindex]
    exact hchanged
  · rw [Indexer.graph_update_full hd, LinkGraph.pairs_ofLayers]
    exact hpairs
  · rw [Indexer.graph_update_full hd', LinkGraph.pairs_ofLayers, hlayers]
    exact hpairs'

end Session

end Gazetteer
