import Gazetteer.Indexer.Session
import Gazetteer.Proofs.Indexer.AllNotes
import Gazetteer.Proofs.Indexer.Consistency
import Gazetteer.Proofs.Layer.Content

/-!
# Updating a note is the same as indexing everything

After everything was indexed, the index holds the layers that all notes have, each with the number
of its relations (`LayerIndex.Holds`). When one note changes, the layers of the others stay what
they are, so the layers that the index has for the other notes, together with the new ones of the
note, are the layers that all notes have now. The graph made of them does not depend on their order
or on the counts that they carry. What may differ is that a layer was kept which says the same as
its candidate.
-/

namespace Gazetteer

variable {notes notes' : Notes} {source : SourceRef} {x : Indexer} {i : LayerIndex} {g : LinkGraph}
  {b l : Layer} {ls : List Layer}

/-! ## The layers of all notes -/

/-- The notes are the same but for what one of them says. -/
structure Notes.EditedAt (notes notes' : Notes) (source : SourceRef) : Prop where
  mem : source ∈ notes.sources
  sources : notes'.sources = notes.sources
  read : ∀ t, t ≠ source → notes'.read t = notes.read t
  resolve : notes'.resolve = notes.resolve

theorem Notes.EditedAt.changedAt (h : notes.EditedAt notes' source) :
    notes.ChangedAt notes' source where
  sources := by rw [h.sources]
  read := h.read

theorem NoteStore.editedAt_put {s : NoteStore} {text : String} (h : s.contains source = true) :
    s.notes.EditedAt (s.put source text).notes source where
  mem := mem_sources_iff.2 h
  sources := sources_put h
  read _ ht := read_put_of_ne ht
  resolve := resolve_put h

namespace Indexer

/-- An edit leaves the layers of other notes. -/
theorem mem_layersIn_of_editedAt (he : notes.EditedAt notes' source)
    (hrules : x.rules.askLinks = false) (hs : b.source? ≠ some source) :
    b ∈ x.layersIn notes' ↔ b ∈ x.layersIn notes := by
  rw [mem_layersIn_iff, mem_layersIn_iff, he.sources]
  have hbuilt : ∀ t ls ds, b ∈ ls →
      (x.buildIndexed notes' t = .ok (ls, ds) ↔ x.buildIndexed notes t = .ok (ls, ds)) := by
    intro t ls ds hb
    by_cases ht : t = source
    · subst ht
      exact ⟨fun hok => absurd (source?_of_mem_buildIndexed hok hb) hs,
        fun hok => absurd (source?_of_mem_buildIndexed hok hb) hs⟩
    · rw [buildIndexed_congr hrules (he.read t ht)]
  constructor
  · rintro ⟨t, ht, ls, ds, hok, hb⟩
    exact ⟨t, ht, ls, ds, (hbuilt t ls ds hb).1 hok, hb⟩
  · rintro ⟨t, ht, ls, ds, hok, hb⟩
    exact ⟨t, ht, ls, ds, (hbuilt t ls ds hb).2 hok, hb⟩

end Indexer

/-! ## Indexes that hold the layers of all notes -/

namespace LayerIndex

/-- An index holds some layers under their ids, with the numbers of their relations. -/
def Holds (i : LayerIndex) (g : LinkGraph) (ls : List Layer) : Prop :=
  ∀ id l, i.get? id = some l ↔ ∃ b ∈ ls, b.id = id ∧ g.stamp b = l

/-- An index shows some layers: under the id of each there is the layer, with the number of its
relations, or one from the same note that says the same. -/
structure Shows (i : LayerIndex) (g : LinkGraph) (ls : List Layer) : Prop where
  contains : ∀ b ∈ ls, i.contains b.id = true
  same : ∀ {id l}, i.get? id = some l → ∃ b ∈ ls, b.id = id ∧ l.source? = b.source? ∧
    (l = g.stamp b ∨ l.sameContent false (g.stamp b) = true)

theorem Holds.shows (h : i.Holds g ls) : i.Shows g ls where
  contains b hb := contains_iff.2 ⟨_, (h b.id _).2 ⟨b, hb, rfl, rfl⟩⟩
  same {id l} hg := by
    obtain ⟨b, hb, hid, rfl⟩ := (h id l).1 hg
    exact ⟨b, hb, hid, g.source?_stamp b, Or.inl rfl⟩

theorem Shows.ids_eq {i' : LayerIndex} {g' : LinkGraph} (h : i.Shows g ls) (h' : i'.Shows g' ls) :
    i.ids = i'.ids := by
  have hsub : ∀ {j j' : LayerIndex} {k k' : LinkGraph} {id : String}, j.Shows k ls →
      j'.Shows k' ls → j.contains id = true → j'.contains id = true := by
    intro j j' k k' id hj hj' hc
    obtain ⟨l, hl⟩ := contains_iff.1 hc
    obtain ⟨b, hb, rfl, -⟩ := hj.same hl
    exact hj'.contains b hb
  exact SortedMap.keys_congr fun id => Bool.eq_iff_iff.2 ⟨hsub h h', hsub h' h⟩

/-- The layers that an index holds for other notes than one. -/
theorem Holds.mem_others (h : i.Holds g ls) (hwf : i.WF) :
    l ∈ i.others source ↔ ∃ b ∈ ls, b.source? ≠ some source ∧ g.stamp b = l := by
  rw [hwf.mem_others, h l.id l]
  constructor
  · rintro ⟨⟨b, hb, -, rfl⟩, hs⟩
    exact ⟨b, hb, by rwa [LinkGraph.source?_stamp] at hs, rfl⟩
  · rintro ⟨b, hb, hs, rfl⟩
    exact ⟨⟨b, hb, (g.id_stamp b).symm, rfl⟩, by rwa [LinkGraph.source?_stamp]⟩

theorem settle_empty (c : Layer) : LayerIndex.empty.settle c = c := rfl

end LayerIndex

namespace Indexer

variable {d : Applied}

/-- Indexing everything for the first time makes an index of the layers of all notes. -/
theorem holds_update_full (hi : x.index = .empty) (hn : ((x.layersIn notes).map Layer.id).Nodup)
    (h : x.update notes .full = .ok d) :
    d.indexer.index.Holds d.indexer.graph (x.layersIn notes) := by
  intro id l
  rw [update_full_eq_ok h, hi]
  simp only
  rw [get?_reconcileNext_full .empty rfl]
  have hcand : distinctLayers [] (NextState.beside notes [] (x.layersIn notes)).candidates =
      (x.layersIn notes).map (LinkGraph.ofLayers notes (x.layersIn notes)).stamp := by
    refine distinctLayers_eq_self (fun c hc => ?_) ?_ fun _ _ => List.not_mem_nil
    · obtain ⟨b, hb, rfl⟩ := List.mem_map.1 hc
      rw [LinkGraph.isFloating_stamp]
      exact isFloating_of_mem_layersIn hb
    · show (((x.layersIn notes).map _).map Layer.id).Nodup
      rw [List.map_map]
      simpa only [Function.comp_def, LinkGraph.id_stamp] using hn
  rw [hcand]
  simp only [List.mem_map, exists_exists_and_eq_and, LinkGraph.id_stamp, LayerIndex.settle_empty]

/-! ## After an edit -/

section Edit

variable {x₁ : Indexer} {ds : List DroppedFact}

/-- The layers that are indexed for other notes and the new ones of the edited note have the markers
of all notes, up to their counts. -/
theorem info_mem_others_append (he : notes.EditedAt notes' source)
    (hrules : x.rules.askLinks = false) (hwf : i.WF) (hi : i.Holds g (x.layersIn notes))
    (hls : ∀ b, b ∈ ls ↔ b ∈ x.layersIn notes' ∧ b.source? = some source) (info : LayerInfo) :
    (∃ m, .marker m ∈ i.others source ++ ls ∧ m.info = info) ↔
      ∃ m, .marker m ∈ x.layersIn notes' ∧ m.info = info := by
  constructor
  · rintro ⟨m, hm, rfl⟩
    rcases List.mem_append.1 hm with hm | hm
    · obtain ⟨b, hb, hs, hstamp⟩ := (hi.mem_others hwf).1 hm
      obtain ⟨m', rfl, rfl⟩ := LinkGraph.stamp_eq_marker_iff.1 hstamp
      exact ⟨m', (mem_layersIn_of_editedAt he hrules hs).2 hb, rfl⟩
    · exact ⟨m, ((hls _).1 hm).1, rfl⟩
  · rintro ⟨m, hm, rfl⟩
    by_cases hs : (Layer.marker m).source? = some source
    · exact ⟨m, List.mem_append_right _ ((hls _).2 ⟨hm, hs⟩), rfl⟩
    · have hother : .marker (g.stampMarker m) ∈ i.others source :=
        (hi.mem_others hwf).2 ⟨.marker m, (mem_layersIn_of_editedAt he hrules hs).1 hm, hs, rfl⟩
      exact ⟨g.stampMarker m, List.mem_append_left _ hother, rfl⟩

/-- What becomes of a candidate of the edited note comes from this note: a kept layer of another
note would be among the layers of all notes, where only the candidate has its id. -/
theorem source?_settle_of_editedAt (he : notes.EditedAt notes' source)
    (hrules : x.rules.askLinks = false) (hi : i.Holds g (x.layersIn notes))
    (hn : ((x.layersIn notes').map Layer.id).Nodup) {g' : LinkGraph} (hb : b ∈ x.layersIn notes')
    (hs : b.source? = some source) : (i.settle (g'.stamp b)).source? = some source := by
  rcases i.settle_cases (g'.stamp b) with hsame | ⟨hold, -⟩
  · rw [hsame, LinkGraph.source?_stamp, hs]
  · obtain ⟨b', hb', hid, hstamp⟩ := (hi _ _).1 hold
    rw [← hstamp, LinkGraph.source?_stamp]
    by_cases hs' : b'.source? = some source
    · exact hs'
    · have hmem := (mem_layersIn_of_editedAt he hrules hs').2 hb'
      rw [LinkGraph.id_stamp] at hid
      rw [List.inj_on_of_nodup_map hn hmem hb hid, hs]

/-- The index after the edited note was indexed anew shows the layers that all notes have now. -/
theorem shows_reconcileNext_file (he : notes.EditedAt notes' source)
    (hrules : x.rules.askLinks = false) (hwf : i.WF) (hi : i.Holds g (x.layersIn notes))
    (hls : ∀ b, b ∈ ls ↔ b ∈ x.layersIn notes' ∧ b.source? = some source)
    (hn : ((x.layersIn notes').map Layer.id).Nodup) :
    let next := NextState.beside notes' (i.others source) ls
    (reconcileNext i (.file source) next).1.Shows next.graph (x.layersIn notes') := by
  intro next
  have hfits : next.Fits (.file source) i := ⟨rfl, nofun⟩
  refine ⟨fun b hb => ?_, fun {id l} hg => ?_⟩
  · by_cases hs : b.source? = some source
    · have hcand : next.graph.stamp b ∈ next.candidates :=
        List.mem_map_of_mem ((hls b).2 ⟨hb, hs⟩)
      have hfloat : (next.graph.stamp b).isFloating = false := by
        rw [LinkGraph.isFloating_stamp]
        exact isFloating_of_mem_layersIn hb
      have hcont := contains_reconcileNext hwf hfits (Or.inr ⟨hcand, hfloat⟩)
      rwa [LinkGraph.id_stamp] at hcont
    · have hother : g.stamp b ∈ i.others source := (hi.mem_others hwf).2
        ⟨b, (mem_layersIn_of_editedAt he hrules hs).1 hb, hs, rfl⟩
      have hcont := contains_reconcileNext hwf hfits (Or.inl hother)
      rwa [LinkGraph.id_stamp] at hcont
  · rcases (get?_reconcileNext hwf hfits).1 hg with ⟨old, hold, hid, rfl⟩ | ⟨-, c, hc, hid, rfl⟩
    · obtain ⟨b, hb, hs, rfl⟩ := (hi.mem_others hwf).1 hold
      rw [LinkGraph.id_stamp] at hid
      refine ⟨b, (mem_layersIn_of_editedAt he hrules hs).2 hb, hid, ?_, Or.inl ?_⟩
      · rw [LinkGraph.source?_stamp, LinkGraph.source?_stamp]
      · rw [LinkGraph.stamp_stamp]
    · obtain ⟨b, hb, rfl⟩ := List.mem_map.1 (mem_of_mem_distinctLayers hc)
      obtain ⟨hb, hs⟩ := (hls b).1 hb
      rw [LinkGraph.id_stamp] at hid
      refine ⟨b, hb, hid, ?_, (i.settle_cases _).imp_right And.right⟩
      rw [hs]
      exact source?_settle_of_editedAt he hrules hi hn hb hs

/-- Indexing the edited note anew gives the relations and the layers of all notes as they are
now. -/
theorem shows_update_file (he : notes.EditedAt notes' source) (hrules : x.rules.askLinks = false)
    (hc : x₁.config = x.config) (hr : x₁.rules = x.rules) (hwf : x₁.index.WF)
    (hi : x₁.index.Holds x₁.graph (x.layersIn notes))
    (hg : x₁.graph = .ofLayers notes (x.layersIn notes))
    (hn : ((x.layersIn notes').map Layer.id).Nodup)
    (h : x₁.update notes' (.file source) = .ok d) :
    d.indexer.graph.pairs = (LinkGraph.ofLayers notes' (x.layersIn notes')).pairs ∧
      d.indexer.index.Shows d.indexer.graph (x.layersIn notes') := by
  obtain ⟨ls, ds, hbuilt, hcase⟩ := update_file_eq_ok h
  rw [rebuild_congr_settings hc hr] at hbuilt
  have hmem : source ∈ notes'.sources := by rw [he.sources]; exact he.mem
  have hls : ∀ b, b ∈ ls ↔ b ∈ x.layersIn notes' ∧ b.source? = some source := fun b =>
    mem_layersIn_of_rebuild hmem hbuilt
  rcases hcase with ⟨hnil, hhas, hd⟩ | hd
  · -- The note has no layers and had none, so all notes have the layers that they had.
    have hno : ∀ b ∈ x.layersIn notes, b.source? ≠ some source := fun b hb hs => by
      have hg := (hi b.id _).2 ⟨b, hb, rfl, rfl⟩
      have := hwf.hasLayersOf_iff.2 ⟨b.id, _, hg, (x₁.graph.source?_stamp b).trans hs⟩
      rw [hhas] at this
      cases this
    have hno' : ∀ b ∈ x.layersIn notes', b.source? ≠ some source := fun b hb hs => by
      have := (hls b).2 ⟨hb, hs⟩
      rw [hnil] at this
      cases this
    have hlayers := layersIn_of_changedAt he.changedAt hrules hno hno'
    rw [hd]
    constructor
    · show x₁.graph.pairs = _
      rw [hg, pairs_layersIn_of_changedAt he.changedAt hrules hno hno'
        (Notes.keepsLinks_of_resolve_eq he.resolve.symm _)]
    · rw [hlayers]
      exact hi.shows
  · rw [hd]
    refine ⟨?_, shows_reconcileNext_file he hrules hwf hi hls hn⟩
    exact LinkGraph.pairs_ofLayers_congr (info_mem_others_append he hrules hwf hi hls)
      fun _ _ _ _ => Iff.rfl

end Edit

theorem sameContent_stamp_self (hb : b ∈ x.layersIn notes)
    (hicon : ∀ m, .marker m ∈ x.layersIn notes → m.icon.HasNumbers) :
    (g.stamp b).sameContent false (g.stamp b) = true := by
  obtain ⟨t, -, ht⟩ := mem_sources_of_mem_layersIn hb
  refine Layer.sameContent_self ⟨t, by rw [LinkGraph.source?_stamp, ht]⟩ fun m hm => ?_
  obtain ⟨m', rfl, rfl⟩ := LinkGraph.stamp_eq_marker_iff.1 hm
  exact hicon m' hb

/-- **Updating a note is the same as indexing everything.** Index the notes of a store, edit one of
them and index it anew. A new indexer can index all notes of the edited store; then both indexes
have the same ids, under each id layers from the same note with the same content, and the same
relations. This holds if no two layers of the store have one id, before and after the edit, display
rules do not ask about links, and no opacity is anything but a number. -/
theorem update_file_same_as_full {config : Config} (hx : Indexer.new config = .ok x)
    {s : NoteStore} {text : String} (hs : s.contains source = true)
    (hn : ((x.layersIn s.notes).map Layer.id).Nodup)
    (hn' : ((x.layersIn (s.put source text).notes).map Layer.id).Nodup)
    (hrules : x.rules.askLinks = false)
    (hicon : ∀ m, .marker m ∈ x.layersIn (s.put source text).notes → m.icon.HasNumbers)
    {d₁ d₂ : Applied} (h₁ : x.update s.notes .full = .ok d₁)
    (h₂ : d₁.indexer.update (s.put source text).notes (.file source) = .ok d₂) :
    ∃ d₃, x.update (s.put source text).notes .full = .ok d₃ ∧
      d₂.indexer.index.ids = d₃.indexer.index.ids ∧
      (∀ id l l', d₂.indexer.index.get? id = some l → d₃.indexer.index.get? id = some l' →
        l.source? = l'.source? ∧ l.sameContent false l' = true) ∧
      d₂.indexer.graph.pairs = d₃.indexer.graph.pairs := by
  obtain ⟨hempty, -, -⟩ := new_eq_ok hx
  have hd₁ := update_full_eq_ok h₁
  have hwf₁ : d₁.indexer.index.WF := wf_update (by rw [hempty]; exact .empty) h₁
  obtain ⟨hpairs, hshows⟩ := shows_update_file (NoteStore.editedAt_put hs) hrules
    (by rw [hd₁]; rfl) (by rw [hd₁]; rfl) hwf₁ (holds_update_full hempty hn h₁) (by rw [hd₁]) hn' h₂
  obtain ⟨d₃, h₃⟩ := exists_update_eq_ok (prepare_full x (s.put source text).notes)
  have hholds := holds_update_full hempty hn' h₃
  have hpairs₃ : d₂.indexer.graph.pairs = d₃.indexer.graph.pairs := by
    rw [hpairs, update_full_eq_ok h₃]
  refine ⟨d₃, h₃, hshows.ids_eq hholds.shows, fun id l l' hl hl' => ?_, hpairs₃⟩
  obtain ⟨b, hb, hid, hsource, hsame⟩ := hshows.same hl
  obtain ⟨b', hb', hid', rfl⟩ := (hholds id l').1 hl'
  obtain rfl : b' = b := List.inj_on_of_nodup_map hn' hb' hb (hid'.trans hid.symm)
  rw [LinkGraph.stamp_congr hpairs₃] at hsame
  refine ⟨by rw [hsource, LinkGraph.source?_stamp], ?_⟩
  rcases hsame with rfl | hsame
  · exact sameContent_stamp_self hb hicon
  · exact hsame

/-- Two notes with a place each, one of which links to the other; the place of the other moves, and
with it its id and the relation. -/
theorem update_file_same_as_full_moved_place :
    let s := NoteStore.ofList [("A.md", "[a](geo:1,2) [[B]]"), ("B.md", "[b](geo:3,4)")]
    let s' := s.put ⟨"B.md"⟩ "[b](geo:5,6)"
    ∃ x d₁ d₂ d₃, Indexer.new .default = .ok x ∧ x.update s.notes .full = .ok d₁ ∧
      d₁.indexer.update s'.notes (.file ⟨"B.md"⟩) = .ok d₂ ∧ x.update s'.notes .full = .ok d₃ ∧
      d₁.indexer.index.ids = ["A.md1200", "B.md3400"] ∧
      d₁.indexer.graph.pairs.map (fun p => (p.low, p.high)) = [("A.md1200", "B.md3400")] ∧
      d₂.indexer.index.ids = d₃.indexer.index.ids ∧
      d₂.indexer.index.ids = ["A.md1200", "B.md5600"] ∧
      (∀ id l l', d₂.indexer.index.get? id = some l → d₃.indexer.index.get? id = some l' →
        l.source? = l'.source? ∧ l.sameContent false l' = true) ∧
      d₂.indexer.graph.pairs = d₃.indexer.graph.pairs ∧
      d₂.indexer.graph.pairs.map (fun p => (p.low, p.high)) = [("A.md1200", "B.md5600")] := by
  intro s s'
  have hs : s.contains ⟨"B.md"⟩ = true := by decide +kernel
  have hcheck : (Indexer.new .default).toOption.any (fun x =>
      let ls := x.layersIn s.notes
      let g := LinkGraph.ofLinks s.notes ls
      let ls' := x.layersIn s'.notes
      let g' := LinkGraph.ofLinks s'.notes ls'
      decide ((ls.map Layer.id).Nodup ∧ (ls'.map Layer.id).Nodup ∧ x.rules.askLinks = false ∧
        (x.rebuild s'.notes ⟨"B.md"⟩).isOk = true ∧
        (∀ m ∈ LinkGraph.markersOf ls', m.icon.HasNumbers) ∧
        (LayerIndex.empty.reconcile (ls.map g.stamp)).toIndex.ids = ["A.md1200", "B.md3400"] ∧
        g.pairs.map (fun p => (p.low, p.high)) = [("A.md1200", "B.md3400")] ∧
        (LayerIndex.empty.reconcile (ls'.map g'.stamp)).toIndex.ids = ["A.md1200", "B.md5600"] ∧
        g'.pairs.map (fun p => (p.low, p.high)) = [("A.md1200", "B.md5600")])) = true := by
    decide +kernel
  obtain ⟨x, hx, hcheck⟩ := exists_of_any_toOption hcheck
  obtain ⟨hn, hn', hrules, hok, hicon, hids₁, hpairs₁, hids₃, hpairs₃⟩ := of_decide_eq_true hcheck
  obtain ⟨d₁, h₁⟩ := exists_update_eq_ok (prepare_full x s.notes)
  obtain ⟨d₂, h₂⟩ : ∃ d₂, d₁.indexer.update s'.notes (.file ⟨"B.md"⟩) = .ok d₂ := by
    cases hr : x.rebuild s'.notes ⟨"B.md"⟩ with
    | error e =>
      rw [hr] at hok
      cases hok
    | ok built =>
      rw [← rebuild_update h₁] at hr
      exact exists_update_eq_ok (prepareFile_eq_ok_iff.2 ⟨built.1, built.2, hr, rfl⟩)
  obtain ⟨d₃, h₃, hids, hsame, hpairs⟩ := update_file_same_as_full hx hs hn hn' hrules
    (fun m hm => hicon m (LinkGraph.mem_markersOf.2 hm)) h₁ h₂
  refine ⟨x, d₁, d₂, d₃, hx, h₁, h₂, h₃, ?_, ?_, hids, ?_, hsame, hpairs, ?_⟩
  · rw [index_first_update_full hx h₁]
    exact hids₁
  · rw [graph_update_full h₁, LinkGraph.pairs_ofLayers]
    exact hpairs₁
  · rw [hids, index_first_update_full hx h₃]
    exact hids₃
  · rw [hpairs, graph_update_full h₃, LinkGraph.pairs_ofLayers]
    exact hpairs₃

end Indexer

end Gazetteer
