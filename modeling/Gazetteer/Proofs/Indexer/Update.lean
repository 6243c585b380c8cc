import Gazetteer.Proofs.Index.Reconciliation
import Gazetteer.Proofs.Indexer.Generation
import Gazetteer.Proofs.Link.Relation

/-!
# What an update puts into the index

The index after an update, look-up by look-up. A full update leaves a layer for every candidate that
counts. An update of one note leaves the layers of the other notes, each with its new number of
relations, and a layer for every candidate whose id they do not use.
-/

namespace Gazetteer

variable {i : LayerIndex} {l old : Layer} {ls : List Layer} {source : SourceRef} {id : String}
  {g : LinkGraph}

/-! ## Restamped markers -/

namespace LinkGraph

theorem restamp?_eq_none_iff : g.restamp? l = none ↔ g.Counts l := by
  unfold restamp? Counts
  cases l with
  | marker m =>
    simp only [Layer.marker?, Option.bind_some, ite_eq_left_iff, reduceCtorEq, imp_false,
      Decidable.not_not, Layer.marker.injEq, forall_eq']
    exact eq_comm
  | _ => simp [Layer.marker?]

theorem eq_stamp_of_restamp? {r : Layer} (h : g.restamp? l = some r) : r = g.stamp l := by
  unfold restamp? at h
  cases l with
  | marker m =>
    simp only [Layer.marker?, Option.bind_some] at h
    split at h
    · cases h
    · cases h
      rfl
  | _ => cases h

theorem restamp?_congr {g' : LinkGraph} (h : g.pairs = g'.pairs) (l : Layer) :
    g.restamp? l = g'.restamp? l := by
  unfold restamp? stampMarker
  simp only [degree_congr h]

/-- The ids of restamped layers are ids of the layers. -/
theorem restamp?_ids_sublist (g : LinkGraph) (ls : List Layer) :
    ((ls.filterMap g.restamp?).map Layer.id).Sublist (ls.map Layer.id) := by
  induction ls with
  | nil => exact .slnil
  | cons l ls ih =>
    cases hr : g.restamp? l with
    | none =>
      rw [List.filterMap_cons_none hr, List.map_cons]
      exact ih.cons _
    | some r =>
      rw [List.filterMap_cons_some hr, List.map_cons, List.map_cons, eq_stamp_of_restamp? hr,
        id_stamp]
      exact ih.cons_cons _

end LinkGraph

namespace Indexer

theorem putRestamped_cons (i : LayerIndex) (updated : List Layer) (l : Layer) (ls : List Layer) :
    (putRestamped i updated (l :: ls)).1 =
      (putRestamped (i.replace l)
        (if (i.replaced? l).isSome then updated ++ [l] else updated) ls).1 := by
  cases h : i.replaced? l with
  | none => simp [putRestamped, LayerIndex.replace, h]
  | some old => simp [putRestamped, h]

theorem wf_putRestamped (h : i.WF) (updated ls : List Layer) :
    (putRestamped i updated ls).1.WF := by
  induction ls generalizing i updated with
  | nil => exact h
  | cons l ls ih =>
    rw [putRestamped_cons]
    exact ih (h.replace l) _

/-- Ids without a restamped marker keep their layers. -/
theorem get?_putRestamped_of_not_mem (updated : List Layer) (hno : ∀ r ∈ ls, r.id ≠ id) :
    (putRestamped i updated ls).1.get? id = i.get? id := by
  induction ls generalizing i updated with
  | nil => rfl
  | cons r ls ih =>
    rw [putRestamped_cons, ih _ fun r' hr' => hno r' (List.mem_cons_of_mem _ hr'),
      LayerIndex.get?_replace, if_neg]
    exact fun hc => hno r List.mem_cons_self hc.2.symm

/-- A restamped marker takes the place of the layer with its id, if that one comes from its note. -/
theorem get?_putRestamped_of_mem {r : Layer} (updated : List Layer)
    (hn : (ls.map Layer.id).Nodup) (hr : r ∈ ls) (hg : i.get? r.id = some old)
    (hs : old.source? = r.source?) : (putRestamped i updated ls).1.get? r.id = some r := by
  induction ls generalizing i updated with
  | nil => cases hr
  | cons r' ls ih =>
    rw [List.map_cons, List.nodup_cons] at hn
    rw [putRestamped_cons]
    rcases List.mem_cons.1 hr with rfl | hr
    · have hno : ∀ r' ∈ ls, r'.id ≠ r.id := fun r' hr' he => hn.1 (he ▸ List.mem_map_of_mem hr')
      have hrep : i.replaced? r = some old := LayerIndex.replaced?_eq_some_iff.2 ⟨hg, hs⟩
      rw [get?_putRestamped_of_not_mem _ hno, LayerIndex.get?_replace, if_pos (by simp [hrep])]
    · have hne : r.id ≠ r'.id := fun he => hn.1 (he ▸ List.mem_map_of_mem hr)
      refine ih _ hn.2 hr ?_
      rw [LayerIndex.get?_replace, if_neg fun hc => hne hc.2, hg]

/-- A layer of another note that is still there is stamped afterwards. -/
theorem get?_putRestamped_others {i' : LayerIndex} (h : i.WF) (updated : List Layer)
    (hg : i.get? id = some old) (hs : old.source? ≠ some source) (hg' : i'.get? id = some old) :
    (putRestamped i' updated ((i.others source).filterMap g.restamp?)).1.get? id =
      some (g.stamp old) := by
  have hid := h.id_eq hg
  have hold : old ∈ i.others source := h.mem_others.2 ⟨by rw [hid]; exact hg, hs⟩
  cases hr : g.restamp? old with
  | none =>
    rw [get?_putRestamped_of_not_mem, hg', (LinkGraph.restamp?_eq_none_iff.1 hr).stamp_eq]
    -- A restamped marker with the id would be made of the layer itself.
    intro r hrmem he
    obtain ⟨o, ho, hor⟩ := List.mem_filterMap.1 hrmem
    have hoid : o.id = id := by rw [← he, LinkGraph.eq_stamp_of_restamp? hor, LinkGraph.id_stamp]
    have hog := (h.mem_others.1 ho).1
    rw [hoid, hg, Option.some.injEq] at hog
    rw [← hog, hr] at hor
    cases hor
  | some r =>
    have hre := LinkGraph.eq_stamp_of_restamp? hr
    have hrid : r.id = id := by rw [hre, LinkGraph.id_stamp, hid]
    have hn := (h.nodup_ids_others source).sublist (g.restamp?_ids_sublist (i.others source))
    have hrs : old.source? = r.source? := by rw [hre, LinkGraph.source?_stamp]
    rw [← hre, ← hrid]
    rw [← hrid] at hg'
    exact get?_putRestamped_of_mem updated hn (List.mem_filterMap.2 ⟨old, hold, hr⟩) hg' hrs

/-- An id that no other note uses is not touched by restamped markers of other notes. -/
theorem get?_putRestamped_of_free {i' : LayerIndex} (h : i.WF) (updated : List Layer)
    (hfree : ∀ old, i.get? id = some old → old.source? = some source) :
    (putRestamped i' updated ((i.others source).filterMap g.restamp?)).1.get? id =
      i'.get? id := by
  refine get?_putRestamped_of_not_mem updated fun r hr he => ?_
  obtain ⟨o, ho, hor⟩ := List.mem_filterMap.1 hr
  obtain ⟨hog, hos⟩ := h.mem_others.1 ho
  rw [LinkGraph.eq_stamp_of_restamp? hor, LinkGraph.id_stamp] at he
  exact hos (hfree o (he ▸ hog))

/-! ## The index after an update -/

theorem wf_reconcileScope (h : i.WF) (scope : UpdateScope) (candidates : List Layer) :
    (reconcileScope i scope candidates).1.WF := by
  cases scope with
  | full => exact LayerIndex.WF.toIndex _
  | file source => exact h.applySource source.path _
  | removal source => exact h.deleteSource source.path

theorem wf_reconcileNext (h : i.WF) (scope : UpdateScope) (next : NextState) :
    (reconcileNext i scope next).1.WF :=
  wf_putRestamped (wf_reconcileScope h scope next.candidates) _ _

variable {next : NextState}

/-- A full update leaves a layer for every candidate that counts. -/
theorem get?_reconcileNext_full (h : i.WF) (hr : next.restamped = []) :
    (reconcileNext i .full next).1.get? id = some l ↔
      ∃ c ∈ distinctLayers [] next.candidates, c.id = id ∧ i.settle c = l := by
  have hrun : (reconcileNext i .full next).1 = (i.reconcile next.candidates).toIndex := by
    unfold reconcileNext
    rw [hr]
    rfl
  rw [hrun]
  exact h.get?_toIndex_reconcile _

/-- An update of a note leaves the layers of other notes, stamped, and a layer for every candidate
that counts and whose id they do not use. -/
theorem get?_reconcileNext_file (h : i.WF)
    (hr : next.restamped = (i.others source).filterMap next.graph.restamp?) :
    (reconcileNext i (.file source) next).1.get? id = some l ↔
      (∃ old ∈ i.others source, old.id = id ∧ next.graph.stamp old = l) ∨
        (∀ old ∈ i.others source, old.id ≠ id) ∧
          ∃ c ∈ distinctLayers [] next.candidates, c.id = id ∧ i.settle c = l := by
  have hrun : (reconcileNext i (.file source) next).1 =
      (putRestamped (reconcileScope i (.file source) next.candidates).1
        (reconcileScope i (.file source) next.candidates).2.updated
        ((i.others source).filterMap next.graph.restamp?)).1 := by
    rw [← hr]
    rfl
  have hscope : ∀ l, (reconcileScope i (.file source) next.candidates).1.get? id = some l ↔
      i.get? id = some l ∧ l.source? ≠ some source ∨
        (∀ old, i.get? id = some old → old.source? = some source) ∧
          ∃ c ∈ distinctLayers [] next.candidates, c.id = id ∧ i.settle c = l := fun l =>
    h.get?_applySource_reconcileSource source.path next.candidates
  by_cases hno : ∀ old ∈ i.others source, old.id ≠ id
  · have hfree := h.forall_others_ne_iff.1 hno
    rw [hrun, get?_putRestamped_of_free h _ hfree, hscope, ← h.forall_others_ne_iff]
    constructor
    · rintro (⟨hg, hs⟩ | hr)
      · exact absurd (hfree l hg) hs
      · exact Or.inr hr
    · rintro (⟨old, hold, hid, -⟩ | hr)
      · exact absurd hid (hno old hold)
      · exact Or.inr hr
  · obtain ⟨old, hold, hid⟩ : ∃ old ∈ i.others source, old.id = id := by simpa using hno
    obtain ⟨hg, hs⟩ := h.mem_others.1 hold
    rw [hid] at hg
    have hg' := (hscope old).2 (Or.inl ⟨hg, hs⟩)
    rw [hrun, get?_putRestamped_others h _ hg hs hg', Option.some.injEq]
    constructor
    · exact fun he => Or.inl ⟨old, hold, hid, he⟩
    · rintro (⟨old', hold', hid', he⟩ | ⟨hno', -⟩)
      · have hsame := (h.mem_others.1 hold').1
        rw [hid', hg, Option.some.injEq] at hsame
        subst hsame
        exact he
      · exact absurd hno' hno

/-- Removing a note is an update of it without candidates. -/
theorem reconcileNext_removal (i : LayerIndex) (source : SourceRef)
    (hc : next.candidates = []) :
    (reconcileNext i (.removal source) next).1 = (reconcileNext i (.file source) next).1 := by
  unfold reconcileNext
  rw [hc]
  rfl

/-- What an update puts into the index depends on the links between the layers, not on the walk
along them. -/
theorem reconcileNext_beside (i : LayerIndex) (scope : UpdateScope) (notes : Notes)
    (others ls : List Layer) :
    let g := LinkGraph.ofLinks notes (others ++ ls)
    reconcileNext i scope (.beside notes others ls) =
      reconcileNext i scope ⟨ls.map g.stamp, others.filterMap g.restamp?, g⟩ := by
  intro g
  have hpairs : (LinkGraph.ofLayers notes (others ++ ls)).pairs = g.pairs :=
    LinkGraph.pairs_ofLayers ..
  have hcandidates : (NextState.beside notes others ls).candidates = ls.map g.stamp :=
    List.map_congr_left fun l _ => LinkGraph.stamp_congr hpairs l
  have hrestamped : (NextState.beside notes others ls).restamped = others.filterMap g.restamp? :=
    List.filterMap_congr fun l _ => LinkGraph.restamp?_congr hpairs l
  unfold reconcileNext
  rw [hcandidates, hrestamped]

end Indexer

namespace UpdateScope

/-- The layers that stay beside those of an update. -/
def others (scope : UpdateScope) (i : LayerIndex) : List Layer :=
  match scope with
  | .full => []
  | .file source | .removal source => i.others source

@[simp] theorem others_full (i : LayerIndex) : full.others i = [] := rfl

@[simp] theorem others_file (i : LayerIndex) (source : SourceRef) :
    (file source).others i = i.others source := rfl

@[simp] theorem others_removal (i : LayerIndex) (source : SourceRef) :
    (removal source).others i = i.others source := rfl

end UpdateScope

/-- A next state restamps the markers that stay beside it; one of a removal has no candidates. -/
structure NextState.Fits (next : NextState) (scope : UpdateScope) (i : LayerIndex) : Prop where
  restamped : next.restamped = (scope.others i).filterMap next.graph.restamp?
  candidates : ∀ source, scope = .removal source → next.candidates = []

namespace Indexer

/-- An update leaves the layers beside it, stamped, and a layer for every candidate that counts and
whose id they do not use. -/
theorem get?_reconcileNext {scope : UpdateScope} (h : i.WF) (hn : next.Fits scope i) :
    (reconcileNext i scope next).1.get? id = some l ↔
      (∃ old ∈ scope.others i, old.id = id ∧ next.graph.stamp old = l) ∨
        (∀ old ∈ scope.others i, old.id ≠ id) ∧
          ∃ c ∈ distinctLayers [] next.candidates, c.id = id ∧ i.settle c = l := by
  have hr := hn.restamped
  cases scope with
  | full =>
    rw [UpdateScope.others_full] at hr ⊢
    rw [get?_reconcileNext_full h hr]
    simp only [List.not_mem_nil, false_and, exists_false, false_or, false_implies, implies_true,
      true_and]
  | file source =>
    rw [UpdateScope.others_file] at hr ⊢
    exact get?_reconcileNext_file h hr
  | removal source =>
    rw [UpdateScope.others_removal] at hr ⊢
    rw [reconcileNext_removal i source (hn.candidates source rfl)]
    exact get?_reconcileNext_file h hr

/-- The ids in use after an update: those of the layers beside it and of its candidates. -/
theorem contains_reconcileNext_iff {scope : UpdateScope} (h : i.WF) (hf : next.Fits scope i) :
    (reconcileNext i scope next).1.contains id = true ↔
      (∃ old ∈ scope.others i, old.id = id) ∨
        ∃ c ∈ distinctLayers [] next.candidates, c.id = id := by
  rw [LayerIndex.contains_iff]
  simp only [get?_reconcileNext h hf]
  constructor
  · rintro ⟨l, ⟨old, hold, hid, -⟩ | ⟨-, c, hc, hid, -⟩⟩
    · exact Or.inl ⟨old, hold, hid⟩
    · exact Or.inr ⟨c, hc, hid⟩
  · intro hor
    by_cases hused : ∃ old ∈ scope.others i, old.id = id
    · obtain ⟨old, hold, hid⟩ := hused
      exact ⟨_, Or.inl ⟨old, hold, hid, rfl⟩⟩
    · obtain ⟨c, hc, hid⟩ := hor.resolve_left hused
      exact ⟨_, Or.inr ⟨fun old hold hid => hused ⟨old, hold, hid⟩, c, hc, hid, rfl⟩⟩

/-! ## Applying -/

variable {x : Indexer} {p : PendingUpdate}

theorem apply_of_next_eq_none (hg : p.generation = x.generation) (hn : p.next = none) :
    x.apply p = .ok ⟨x, {}, []⟩ := by
  unfold apply
  rw [if_neg (not_not_intro hg), hn]

theorem apply_of_next_eq_some (hg : p.generation = x.generation)
    (hn : p.next = some next) :
    x.apply p =
      let (i, r) := reconcileNext x.index p.scope next
      .ok
        { indexer := { x with index := i, graph := next.graph }
          reconciliation := r
          events := eventsOf p.scope r i next.graph } := by
  unfold apply
  rw [if_neg (not_not_intro hg), hn]

/-- The indexer in its next state, and what has changed. -/
def enter (x : Indexer) (scope : UpdateScope) (next : NextState) : Applied where
  indexer := { x with index := (reconcileNext x.index scope next).1, graph := next.graph }
  reconciliation := (reconcileNext x.index scope next).2
  events := eventsOf scope (reconcileNext x.index scope next).2
    (reconcileNext x.index scope next).1 next.graph

/-- Applying an update does nothing, or it enters the next state of the update. -/
theorem cases_of_apply {d : Applied} (ha : x.apply p = .ok d) :
    p.next = none ∧ d = ⟨x, {}, []⟩ ∨ ∃ next, p.next = some next ∧ d = x.enter p.scope next := by
  have hg := apply_isOk_iff.1 ⟨d, ha⟩
  cases hn : p.next with
  | none =>
    rw [apply_of_next_eq_none hg hn, Except.ok.injEq] at ha
    exact Or.inl ⟨rfl, ha.symm⟩
  | some next =>
    rw [apply_of_next_eq_some hg hn, Except.ok.injEq] at ha
    exact Or.inr ⟨next, rfl, ha.symm⟩

/-- Applying leaves the settings. -/
theorem settings_apply {d : Applied} (ha : x.apply p = .ok d) :
    d.indexer.config = x.config ∧ d.indexer.rules = x.rules := by
  rcases cases_of_apply ha with ⟨-, rfl⟩ | ⟨next, -, rfl⟩ <;> exact ⟨rfl, rfl⟩

theorem settings_update {notes : Notes} {scope : UpdateScope} {d : Applied}
    (hu : x.update notes scope = .ok d) :
    d.indexer.config = x.config ∧ d.indexer.rules = x.rules := by
  obtain ⟨p, -, ha⟩ := update_eq_ok_iff.1 hu
  exact settings_apply (x := x.advance) ha

/-- After an update notes have the layers that they had before. -/
theorem layersIn_update {notes : Notes} {scope : UpdateScope} {d : Applied}
    (hu : x.update notes scope = .ok d) (notes' : Notes) :
    d.indexer.layersIn notes' = x.layersIn notes' :=
  layersIn_congr_settings (settings_update hu).1 (settings_update hu).2 notes'

theorem wf_apply {d : Applied} (h : x.index.WF) (ha : x.apply p = .ok d) : d.indexer.index.WF := by
  rcases cases_of_apply ha with ⟨-, rfl⟩ | ⟨next, -, rfl⟩
  · exact h
  · exact wf_reconcileNext h p.scope next

theorem wf_update {notes : Notes} {scope : UpdateScope} {d : Applied} (h : x.index.WF)
    (hu : x.update notes scope = .ok d) : d.indexer.index.WF := by
  obtain ⟨p, -, ha⟩ := update_eq_ok_iff.1 hu
  exact wf_apply (x := x.advance) h ha

theorem rebuild_update {notes : Notes} {scope : UpdateScope} {d : Applied}
    (hu : x.update notes scope = .ok d) (notes' : Notes) (source : SourceRef) :
    d.indexer.rebuild notes' source = x.rebuild notes' source :=
  rebuild_congr_settings (settings_update hu).1 (settings_update hu).2 notes' source

/-- A note can be indexed anew if and only if its layers can be built. -/
theorem exists_update_file_iff {notes : Notes} {source : SourceRef} :
    (∃ d, x.update notes (.file source) = .ok d) ↔ (x.rebuild notes source).isOk = true := by
  constructor
  · rintro ⟨d, hd⟩
    obtain ⟨p, hp, -⟩ := update_eq_ok_iff.1 hd
    obtain ⟨ls, ds, hbuilt, -⟩ := prepareFile_eq_ok_iff.1 hp
    rw [hbuilt]
    rfl
  · intro h
    cases hbuilt : x.rebuild notes source with
    | error e =>
      rw [hbuilt] at h
      cases h
    | ok built =>
      exact exists_update_eq_ok (prepareFile_eq_ok_iff.2 ⟨built.1, built.2, hbuilt, rfl⟩)

/-- Indexing everything puts the layers of all notes into the index. -/
theorem update_full_eq (x : Indexer) (notes : Notes) :
    let next := NextState.beside notes [] (x.layersIn notes)
    let (i, r) := reconcileNext x.index .full next
    x.update notes .full =
      .ok ⟨{ x.advance with index := i, graph := next.graph }, r,
        eventsOf .full r i next.graph⟩ := by
  have hnext : (x.prepareFull notes).2.next = some (.beside notes [] (x.layersIn notes)) := by
    rw [← layersIn_advance]
    rfl
  exact apply_of_next_eq_some (x := x.advance) rfl hnext

theorem update_full_eq_ok {notes : Notes} {d : Applied} (h : x.update notes .full = .ok d) :
    d.indexer =
      { x.advance with
        index := (reconcileNext x.index .full (.beside notes [] (x.layersIn notes))).1
        graph := .ofLayers notes (x.layersIn notes) } := by
  rw [update_full_eq] at h
  cases h
  rfl

section Full

variable {notes : Notes} {d : Applied} (h : x.update notes .full = .ok d)

include h

theorem graph_update_full : d.indexer.graph = .ofLayers notes (x.layersIn notes) := by
  rw [update_full_eq_ok h]

theorem reconciliation_update_full :
    d.reconciliation = x.index.reconcile ((x.layersIn notes).map d.indexer.graph.stamp) := by
  rw [update_full_eq] at h
  cases h
  rfl

theorem index_update_full :
    d.indexer.index =
      (x.index.reconcile ((x.layersIn notes).map d.indexer.graph.stamp)).toIndex := by
  rw [update_full_eq] at h
  cases h
  rfl

/-- Layers are stamped with the numbers of the links between them. -/
theorem stamp_graph_update_full :
    d.indexer.graph.stamp = (LinkGraph.ofLinks notes (x.layersIn notes)).stamp := by
  rw [graph_update_full h]
  exact funext (LinkGraph.stamp_congr (LinkGraph.pairs_ofLayers ..))

/-- What is indexed after everything was indexed: the layers of all notes, or layers that were
indexed before and have the same content. -/
theorem get?_update_full (hi : x.index.WF) (hg : d.indexer.index.get? id = some l) :
    ∃ b ∈ x.layersIn notes, b.id = id ∧
      (l = d.indexer.graph.stamp b ∨
        x.index.get? id = some l ∧ l.sameContent false (d.indexer.graph.stamp b) = true) := by
  rw [index_update_full h, hi.get?_toIndex_reconcile] at hg
  obtain ⟨c, hc, hid, rfl⟩ := hg
  obtain ⟨b, hb, rfl⟩ := List.mem_map.1 (mem_of_mem_distinctLayers hc)
  rw [LinkGraph.id_stamp] at hid
  refine ⟨b, hb, hid, (x.index.settle_cases _).imp_right fun ⟨hold, hsame⟩ => ⟨?_, hsame⟩⟩
  rwa [LinkGraph.id_stamp, hid] at hold

end Full

/-- The index after everything was indexed for the first time. -/
theorem index_first_update_full {config : Config} {notes : Notes} {d : Applied}
    (hx : Indexer.new config = .ok x) (h : x.update notes .full = .ok d) :
    d.indexer.index = (LayerIndex.empty.reconcile
      ((x.layersIn notes).map (LinkGraph.ofLinks notes (x.layersIn notes)).stamp)).toIndex := by
  rw [index_update_full h, stamp_graph_update_full h, (new_eq_ok hx).1]

/-- Indexing one note anew changes nothing if it has no layers and had none; otherwise its layers
come in beside those of the other notes. -/
theorem update_file_eq_ok {notes : Notes} {source : SourceRef} {d : Applied}
    (h : x.update notes (.file source) = .ok d) :
    ∃ ls ds, x.rebuild notes source = .ok (ls, ds) ∧
      (ls = [] ∧ x.index.hasLayersOf source.path = false ∧ d.indexer = x.advance ∨
        d.indexer =
          { x.advance with
            index := (reconcileNext x.index (.file source) (x.stateWith notes source ls)).1
            graph := (x.stateWith notes source ls).graph }) := by
  obtain ⟨p, hp, ha⟩ := update_eq_ok_iff.1 h
  obtain ⟨ls, ds, hbuilt, rfl⟩ := prepareFile_eq_ok_iff.1 hp
  refine ⟨ls, ds, hbuilt, ?_⟩
  cases hnoop : ls.isEmpty && !x.index.hasLayersOf source.path with
  | true =>
    have hnext : (x.advance.fileUpdate notes source ls ds).next = none := if_pos hnoop
    rw [apply_of_next_eq_none rfl hnext, Except.ok.injEq] at ha
    subst ha
    rw [Bool.and_eq_true, List.isEmpty_iff, Bool.not_eq_true'] at hnoop
    exact Or.inl ⟨hnoop.1, hnoop.2, rfl⟩
  | false =>
    have hnext : (x.advance.fileUpdate notes source ls ds).next =
        some (x.stateWith notes source ls) := if_neg (Bool.not_eq_true _ ▸ hnoop)
    rw [apply_of_next_eq_some rfl hnext, Except.ok.injEq] at ha
    subst ha
    exact Or.inr rfl

end Indexer

end Gazetteer
