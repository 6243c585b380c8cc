import Gazetteer.Proofs.Indexer.Generation
import Gazetteer.Proofs.Indexer.Update

/-!
# Index and graph are consistent

Every indexed marker has the number of relations that the graph says, and both ends of every
relation are indexed (`LayerIndex.Counted`). An update that was built against an index carries
candidates that are counted in the new graph; kept layers are counted because they have the same
content as their candidates, and markers of other notes because they are restamped. So an update
keeps the property if it is applied to the index that it was built against, which is what
generations are for.
-/

namespace Gazetteer

variable {i : LayerIndex} {g : LinkGraph} {l old c : Layer} {ls : List Layer} {id : String}

/-! ## Consistent indexes -/

/-- Markers have as many relations as the graph says, and the graph relates indexed layers. -/
structure LayerIndex.Counted (i : LayerIndex) (g : LinkGraph) : Prop where
  wf : i.WF
  counts : ∀ {id l}, i.get? id = some l → g.Counts l
  contains : ∀ {p : IdPair}, p ∈ g.pairs → i.contains p.low = true ∧ i.contains p.high = true

theorem LayerIndex.counted_empty : LayerIndex.empty.Counted .empty where
  wf := .empty
  counts h := by simp [get?_empty] at h
  contains h := nomatch h

/-- A layer with the content of a counted one is counted. -/
theorem LinkGraph.Counts.of_sameContent (h : g.Counts c) (hid : old.id = c.id)
    (hs : old.sameContent false c = true) : g.Counts old := by
  intro m hm
  subst hm
  cases c with
  | marker m' =>
    simp only [Layer.sameContent, Marker.sameContent, Bool.and_eq_true, beq_iff_eq] at hs
    have hmid : m.info.id = m'.info.id := hid
    rw [hs.1.2, hmid]
    exact h m' rfl
  | geometry _ => cases hs
  | floatingMarker _ => cases hs
  | floatingGeometry _ => cases hs

theorem LayerIndex.WF.counts_settle (h : i.WF) (hc : g.Counts c) : g.Counts (i.settle c) := by
  rcases i.settle_cases c with he | ⟨-, hs⟩
  · rwa [he]
  · exact hc.of_sameContent (h.id_settle c) hs

/-! ## Updates -/

namespace Indexer

variable {scope : UpdateScope} {next : NextState}

theorem counts_reconcileNext (h : i.WF) (hf : next.Fits scope i)
    (hc : ∀ c ∈ next.candidates, next.graph.Counts c)
    (hg : (reconcileNext i scope next).1.get? id = some l) : next.graph.Counts l := by
  rcases (get?_reconcileNext h hf).1 hg with ⟨old, -, -, rfl⟩ | ⟨-, c, hmem, -, rfl⟩
  · exact next.graph.counts_stamp old
  · exact h.counts_settle (hc c (mem_of_mem_distinctLayers hmem))

/-- The layers beside an update and its candidates are indexed, or others with their ids are. -/
theorem contains_reconcileNext (h : i.WF) (hf : next.Fits scope i)
    (hl : l ∈ scope.others i ∨ l ∈ next.candidates ∧ l.isFloating = false) :
    (reconcileNext i scope next).1.contains l.id = true := by
  rw [contains_reconcileNext_iff h hf]
  rcases hl with hl | ⟨hl, hfloat⟩
  · exact Or.inl ⟨l, hl, rfl⟩
  · exact Or.inr (exists_mem_distinctLayers hl hfloat List.not_mem_nil)

end Indexer

/-- An update was built against an index: its graph is that of its candidates and of the layers that
stay beside them. -/
def PendingUpdate.BuiltOn (p : PendingUpdate) (i : LayerIndex) : Prop :=
  ∀ next, p.next = some next → ∃ notes ls, next = .beside notes (p.scope.others i) ls ∧
    ∀ source, p.scope = .removal source → ls = []

/-- A next state made of the layers beside an update and of new ones. -/
theorem NextState.fits_beside {scope : UpdateScope} (i : LayerIndex) (notes : Notes)
    (hls : ∀ source, scope = .removal source → ls = []) :
    (NextState.beside notes (scope.others i) ls).Fits scope i where
  restamped := rfl
  candidates source hs := by
    rw [hls source hs]
    rfl

/-- Candidates have the numbers of relations in their graph. -/
theorem NextState.counts_of_mem_candidates {next : NextState} {notes : Notes} {others : List Layer}
    (hnext : next = .beside notes others ls) (hc : c ∈ next.candidates) : next.graph.Counts c := by
  have hcand : next.candidates = ls.map next.graph.stamp := by rw [hnext]; rfl
  rw [hcand] at hc
  obtain ⟨l, -, rfl⟩ := List.mem_map.1 hc
  exact next.graph.counts_stamp l

theorem LayerIndex.WF.counted_reconcileNext (h : i.WF) (scope : UpdateScope) (notes : Notes)
    (ls : List Layer) (hls : ∀ source, scope = .removal source → ls = []) {next : NextState}
    (hnext : next = .beside notes (scope.others i) ls) :
    (Indexer.reconcileNext i scope next).1.Counted next.graph := by
  have hgraph : next.graph = LinkGraph.ofLayers notes (scope.others i ++ ls) := by rw [hnext]; rfl
  have hcand : next.candidates = ls.map next.graph.stamp := by rw [hnext]; rfl
  have hfits : next.Fits scope i := hnext ▸ NextState.fits_beside i notes hls
  refine ⟨Indexer.wf_reconcileNext h scope next, fun hg => ?_, fun hp => ?_⟩
  · exact Indexer.counts_reconcileNext h hfits
      (fun _ => NextState.counts_of_mem_candidates hnext) hg
  · -- Both ends of a relation are markers from which the graph was made.
    have hin : ∀ m, .marker m ∈ scope.others i ++ ls →
        (Indexer.reconcileNext i scope next).1.contains m.info.id = true := by
      intro m hm
      rcases List.mem_append.1 hm with hm | hm
      · exact Indexer.contains_reconcileNext h hfits (Or.inl hm)
      · have hstamped : next.graph.stamp (.marker m) ∈ next.candidates := by
          rw [hcand]
          exact List.mem_map_of_mem hm
        exact Indexer.contains_reconcileNext h hfits (Or.inr ⟨hstamped, rfl⟩)
    rw [hgraph] at hp
    obtain ⟨⟨m, hm, hlow⟩, m', hm', hhigh⟩ := LinkGraph.mem_ids_of_mem_pairs_ofLayers hp
    rw [← hlow, ← hhigh]
    exact ⟨hin m hm, hin m' hm'⟩

namespace Indexer

variable {x : Indexer} {p : PendingUpdate}

/-- The layers that an update takes from the notes. -/
def Takes (x : Indexer) (notes : Notes) : UpdateScope → List Layer → Prop
  | .full, ls => ls = x.layersIn notes
  | .file source, ls => ∃ ds, x.rebuild notes source = .ok (ls, ds)
  | .removal _, ls => ls = []

/-- A prepared update puts the layers that it takes from the notes beside those that stay. -/
theorem next_of_prepare {notes : Notes} {scope : UpdateScope} {next : NextState}
    (h : (x.prepare notes scope).2 = .ok p) (hnext : p.next = some next) :
    ∃ ls, next = .beside notes (scope.others x.index) ls ∧ x.Takes notes scope ls := by
  cases scope with
  | full =>
    cases h
    cases hnext
    exact ⟨_, rfl, layersIn_advance ..⟩
  | file source =>
    obtain ⟨ls, ds, hbuilt, rfl⟩ := prepareFile_eq_ok_iff.1 h
    unfold fileUpdate at hnext
    simp only at hnext
    split at hnext
    · cases hnext
    · cases hnext
      exact ⟨ls, rfl, ds, hbuilt⟩
  | removal source =>
    cases h
    simp only at hnext
    split at hnext
    · cases hnext
      exact ⟨[], rfl, rfl⟩
    · cases hnext

theorem builtOn_prepare {notes : Notes} {scope : UpdateScope}
    (h : (x.prepare notes scope).2 = .ok p) : p.BuiltOn x.index := by
  intro next hnext
  obtain ⟨ls, hbeside, hls⟩ := next_of_prepare h hnext
  rw [scope_of_prepare h]
  refine ⟨notes, ls, hbeside, ?_⟩
  rintro source rfl
  exact hls

/-- An update that was built against the index does nothing, or it puts layers beside those that
stay. -/
theorem cases_of_apply_of_builtOn {done : Applied} (hp : p.BuiltOn x.index)
    (ha : x.apply p = .ok done) :
    p.next = none ∧ done = ⟨x, {}, []⟩ ∨
      ∃ next notes ls, p.next = some next ∧ next = .beside notes (p.scope.others x.index) ls ∧
        (∀ source, p.scope = .removal source → ls = []) ∧ done = x.enter p.scope next := by
  refine (cases_of_apply ha).imp_right fun ⟨next, hn, hdone⟩ => ?_
  obtain ⟨notes, ls, hnext, hls⟩ := hp next hn
  exact ⟨next, notes, ls, hn, hnext, hls, hdone⟩

/-- An update keeps the index consistent with the graph if it was built against the index. -/
theorem counted_apply {done : Applied} (h : x.index.Counted x.graph) (hp : p.BuiltOn x.index)
    (ha : x.apply p = .ok done) : done.indexer.index.Counted done.indexer.graph := by
  rcases cases_of_apply_of_builtOn hp ha with ⟨-, rfl⟩ | ⟨next, notes, ls, -, hnext, hls, rfl⟩
  · exact h
  · exact h.wf.counted_reconcileNext p.scope notes ls hls hnext

end Indexer

namespace Session

variable {s : Session}

/-! ## Sessions -/

/-- Index and graph are consistent, and the update that may be applied was built against the
index. -/
structure Consistent (s : Session) : Prop where
  numbered : s.Numbered
  counted : s.indexer.index.Counted s.indexer.graph
  built : ∀ p ∈ s.pending, p.generation = s.indexer.generation → p.BuiltOn s.indexer.index

theorem consistent_start {config : Config} {x : Indexer} (hx : Indexer.new config = .ok x)
    (notes : Notes) : (start x notes).Consistent where
  numbered := numbered_start x notes
  counted := by
    obtain ⟨hi, hg, -⟩ := Indexer.new_eq_ok hx
    show x.index.Counted x.graph
    rw [hi, hg]
    exact LayerIndex.counted_empty
  built _ h := nomatch h

theorem Consistent.step (h : s.Consistent) (a : Action) : (s.step a).Consistent := by
  refine ⟨h.numbered.step a, ?_,
    h.numbered.current_step (fun _ _ => Indexer.builtOn_prepare) h.built a⟩
  cases a with
  | edit notes => exact h.counted
  | prepare scope =>
    rw [s.indexer_step_prepare]
    exact h.counted
  | apply k =>
    obtain hs | ⟨p, hk, ⟨-, hs⟩ | ⟨done, hdone, hs⟩⟩ := s.step_apply_cases k
    · rw [hs]
      exact h.counted
    · rw [hs]
      exact h.counted
    · have hp := Indexer.apply_isOk_iff.1 ⟨done, hdone⟩
      rw [hs]
      exact Indexer.counted_apply h.counted (h.built p (List.mem_of_getElem? hk) hp) hdone

theorem Reachable.consistent (h : s.Reachable) : s.Consistent := by
  induction h with
  | start hx notes => exact consistent_start hx notes
  | step _ a ih => exact ih.step a

/-- **Index and graph are consistent at all times.** Whatever was prepared, applied and edited, in
any order, every indexed marker has the number of relations that its id has in the graph, and the
graph relates ids of indexed layers. -/
theorem counts_agree_of_reachable (h : s.Reachable) :
    (∀ m, .marker m ∈ s.indexer.index.layers →
        m.edgeCount = s.indexer.graph.degree m.info.id) ∧
      ∀ p ∈ s.indexer.graph.pairs,
        s.indexer.index.contains p.low = true ∧ s.indexer.index.contains p.high = true := by
  have hc := h.consistent.counted
  refine ⟨fun m hm => ?_, fun p hp => hc.contains hp⟩
  exact hc.counts (hc.wf.mem_layers.1 hm) m rfl

/-- A session in which two notes with a place each were indexed. -/
theorem counts_agree_of_two_places :
    ∃ s : Session, s.Reachable ∧ s.indexer.index.ids = ["A.md1200", "B.md3400"] ∧
      (∀ m, .marker m ∈ s.indexer.index.layers →
        m.edgeCount = s.indexer.graph.degree m.info.id) ∧
      ∀ p ∈ s.indexer.graph.pairs,
        s.indexer.index.contains p.low = true ∧ s.indexer.index.contains p.high = true := by
  let store := NoteStore.ofList [("A.md", "[a](geo:1,2) [[B]]"), ("B.md", "[b](geo:3,4)")]
  have hids : (Indexer.new .default).toOption.any (fun x =>
      ((start x store.notes).run [.prepare .full, .apply 0]).indexer.index.ids ==
        ["A.md1200", "B.md3400"]) = true := by
    decide +kernel
  cases hx : Indexer.new .default with
  | error e =>
    rw [hx] at hids
    cases hids
  | ok x =>
    rw [hx] at hids
    have hreach := (Reachable.start hx store.notes).run [.prepare .full, .apply 0]
    exact ⟨_, hreach, beq_iff_eq.1 hids, counts_agree_of_reachable hreach⟩

end Session

end Gazetteer
