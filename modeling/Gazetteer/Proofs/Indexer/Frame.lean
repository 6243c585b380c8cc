import Gazetteer.Proofs.Indexer.Consistency

/-!
# What an update of one note leaves in place

An update of one note can meet layers of other notes: a candidate may have the id of one of them, or
even its content, so that the other note's layer is what the reconciliation keeps. None of this
moves them. The ids that other notes use stay with them, and whatever stands among their layers is
found under its id, so their lists are the same ones as before, up to the numbers of relations
(`layersOf_reconcileNext_of_ne`). This needs candidates that come from the note of the update, which
every update that is prepared has (`PendingUpdate.KeepsTo`).
-/

namespace Gazetteer

variable {i : LayerIndex} {l : Layer} {ls candidates : List Layer} {path path' id : String}
  {source : SourceRef}

namespace LayerIndex

/-! ## The layers of a note, by their ids -/

theorem layersOf_of_hasLayersOf_eq_false (h : i.hasLayersOf path = false) :
    i.layersOf path = [] := by
  unfold hasLayersOf SortedMap.contains at h
  unfold layersOf
  rw [Option.isSome_eq_false_iff, Option.isNone_iff_eq_none] at h
  rw [h]
  rfl

/-- The layers of a note are known by their ids, in their order, and what is found under them. -/
theorem WF.layersOf_eq_of_ids (h : i.WF)
    (hids : (i.layersOf path).map Layer.id = ls.map Layer.id)
    (hget : ∀ l ∈ ls, i.get? l.id = some l) : i.layersOf path = ls := by
  have hfound : ∀ ks : List Layer, (∀ l ∈ ks, i.get? l.id = some l) →
      (ks.map Layer.id).filterMap i.get? = ks := by
    intro ks hks
    rw [List.filterMap_map]
    exact (List.filterMap_congr hks).trans List.filterMap_some
  calc i.layersOf path
      = ((i.layersOf path).map Layer.id).filterMap i.get? :=
        (hfound _ fun l hl => (h.mem_layersOf.1 hl).1).symm
    _ = (ls.map Layer.id).filterMap i.get? := by rw [hids]
    _ = ls := hfound ls hget

/-! ## Layers that come in -/

theorem contains_add (h : i.contains id = true) : (i.add l).contains id = true := by
  obtain ⟨old, hold⟩ := contains_iff.1 h
  rw [contains_iff, get?_add]
  split
  · exact ⟨l, rfl⟩
  · exact ⟨old, hold⟩

/-- No layer comes in for a note if the ids of its new layers are in use. -/
theorem layersOf_addAll_of_contains
    (hls : ∀ l ∈ ls, l.source? = some ⟨path⟩ → i.contains l.id = true) :
    (i.addAll ls).layersOf path = i.layersOf path := by
  unfold addAll
  induction ls generalizing i with
  | nil => rfl
  | cons l ls ih =>
    rw [List.foldl_cons, ih fun l' hl' hs => contains_add (hls l' (List.mem_cons_of_mem _ hl') hs),
      layersOf_add, if_neg]
    rintro ⟨ha, hs⟩
    obtain ⟨old, hold⟩ := contains_iff.1 (hls l List.mem_cons_self hs)
    rw [(accepts_iff.1 ha).2] at hold
    cases hold

/-- Reconciling a note leaves the lists of the other notes: a layer of another note that is kept for
a candidate is still there when it would come in again. -/
theorem WF.layersOf_applySource_of_ne (h : i.WF) (hp : path' ≠ path)
    (hown : ∀ c ∈ candidates, c.source? = some ⟨path⟩) :
    (i.applySource path (i.reconcileSource path candidates)).layersOf path' = i.layersOf path' := by
  unfold LayerIndex.applySource reconcileSource
  rw [layersOf_addAll_of_contains, layersOf_deleteSource, if_neg hp]
  intro l hl hs
  obtain ⟨c, hc, rfl⟩ := mem_present_iff.1 hl
  have hne : (i.settle c).source? ≠ some ⟨path⟩ := fun he =>
    hp (SourceRef.mk.inj (Option.some.inj (hs.symm.trans he)))
  rcases i.settle_cases c with hsame | ⟨hg, -⟩
  · exact absurd (hsame.symm ▸ hown c (mem_of_mem_distinctLayers hc) :) hne
  · rw [contains_iff, h.id_settle c, h.get?_deleteSource_eq_filter, hg]
    exact ⟨_, Option.filter_eq_some_iff.2 ⟨rfl, bne_iff_ne.2 hne⟩⟩

end LayerIndex

/-! ## Updates of one note -/

/-- The note that an update is about, unless it is about all of them. -/
def UpdateScope.note? : UpdateScope → Option SourceRef
  | .full => none
  | .file source | .removal source => some source

namespace Indexer

variable {scope : UpdateScope} {next : NextState}

/-- Restamping changes no ids and no order. -/
theorem map_id_layersOf_putRestamped (i : LayerIndex) (updated ls : List Layer) (path : String) :
    ((putRestamped i updated ls).1.layersOf path).map Layer.id =
      (i.layersOf path).map Layer.id := by
  induction ls generalizing i updated with
  | nil => rfl
  | cons l ls ih => rw [putRestamped_cons, ih, LayerIndex.map_id_layersOf_replace]

theorem map_id_layersOf_reconcileNext (i : LayerIndex) (scope : UpdateScope) (next : NextState)
    (path : String) :
    ((reconcileNext i scope next).1.layersOf path).map Layer.id =
      ((reconcileScope i scope next.candidates).1.layersOf path).map Layer.id :=
  map_id_layersOf_putRestamped ..

theorem layersOf_reconcileScope_of_ne (h : i.WF) (hs : scope.note? = some source)
    (hown : ∀ c ∈ candidates, c.source? = some source) (hp : path ≠ source.path) :
    (reconcileScope i scope candidates).1.layersOf path = i.layersOf path := by
  cases scope with
  | full => cases hs
  | file s =>
    cases hs
    exact h.layersOf_applySource_of_ne hp hown
  | removal s =>
    cases hs
    exact (LayerIndex.layersOf_deleteSource ..).trans (if_neg hp)

/-- An update of a note leaves the lists of the other notes, up to the numbers of relations. -/
theorem layersOf_reconcileNext_of_ne (h : i.WF) (hf : next.Fits scope i)
    (hs : scope.note? = some source) (hown : ∀ c ∈ next.candidates, c.source? = some source)
    (hp : path ≠ source.path) :
    (reconcileNext i scope next).1.layersOf path = (i.layersOf path).map next.graph.stamp := by
  apply (wf_reconcileNext h scope next).layersOf_eq_of_ids
  · rw [map_id_layersOf_reconcileNext, layersOf_reconcileScope_of_ne h hs hown hp, List.map_map]
    exact List.map_congr_left fun l _ => (next.graph.id_stamp l).symm
  · intro l' hl'
    obtain ⟨l, hl, rfl⟩ := List.mem_map.1 hl'
    obtain ⟨hg, hsource⟩ := h.mem_layersOf.1 hl
    have hother : l ∈ i.others source := h.mem_others.2
      ⟨hg, fun he => hp (SourceRef.mk.inj (Option.some.inj (hsource.symm.trans he)))⟩
    have hbeside : l ∈ scope.others i := by
      cases scope with
      | full => cases hs
      | file s => cases hs; exact hother
      | removal s => cases hs; exact hother
    exact (get?_reconcileNext h hf).2 (Or.inl ⟨l, hbeside, (next.graph.id_stamp l).symm, rfl⟩)

/-- A removal leaves no layers of its note. -/
theorem layersOf_reconcileNext_removal (i : LayerIndex) (source : SourceRef) (next : NextState) :
    (reconcileNext i (.removal source) next).1.layersOf source.path = [] := by
  have hids := map_id_layersOf_reconcileNext i (.removal source) next source.path
  have hgone : (reconcileScope i (.removal source) next.candidates).1.layersOf source.path = [] :=
    (LayerIndex.layersOf_deleteSource ..).trans (if_pos rfl)
  rw [hgone] at hids
  exact List.map_eq_nil_iff.1 hids

end Indexer

/-- An update keeps to a note: its candidates come from the note, and a removal that changes nothing
found no layers of it. -/
structure PendingUpdate.KeepsTo (p : PendingUpdate) (source : SourceRef) (i : LayerIndex) :
    Prop where
  candidates : ∀ next, p.next = some next → ∀ c ∈ next.candidates, c.source? = some source
  nothing : p.next = none → p.scope = .removal source → i.hasLayersOf source.path = false

namespace Indexer

variable {x : Indexer} {p : PendingUpdate} {done : Applied}

theorem next_prepareRemoval (x : Indexer) (notes : Notes) (source : SourceRef) :
    (x.prepareRemoval notes source).2.next =
      if x.index.hasLayersOf source.path then some (x.stateWith notes source []) else none := rfl

/-- A removal changes nothing if and only if the note has no layers. -/
theorem next_prepareRemoval_eq_none_iff (x : Indexer) (notes : Notes) (source : SourceRef) :
    (x.prepareRemoval notes source).2.next = none ↔ x.index.hasLayersOf source.path = false := by
  rw [next_prepareRemoval, ite_eq_right_iff, ← Bool.not_eq_true]
  exact forall_congr' fun _ => iff_of_false nofun nofun

theorem keepsTo_prepare {notes : Notes} {scope : UpdateScope}
    (h : (x.prepare notes scope).2 = .ok p) (hs : p.scope.note? = some source) :
    p.KeepsTo source x.index := by
  rw [scope_of_prepare h] at hs
  refine ⟨fun next hnext c hc => ?_, fun hnone hremoval => ?_⟩
  · obtain ⟨ls, rfl, hls⟩ := next_of_prepare h hnext
    obtain ⟨b, hb, rfl⟩ := List.mem_map.1 hc
    rw [LinkGraph.source?_stamp]
    cases scope with
    | full => cases hs
    | file s =>
      cases hs
      obtain ⟨ds, hbuilt⟩ := hls
      exact source?_of_mem_rebuild hbuilt hb
    | removal s =>
      rw [hls] at hb
      cases hb
  · rw [scope_of_prepare h] at hremoval
    subst hremoval
    obtain rfl : (x.prepareRemoval notes source).2 = p := Except.ok.inj h
    exact (next_prepareRemoval_eq_none_iff ..).1 hnone

/-- Applying an update of a note leaves the lists of the other notes, up to the numbers of
relations, and a removal leaves none for its own. -/
theorem layersOf_apply (h : x.index.Counted x.graph) (hb : p.BuiltOn x.index)
    (hs : p.scope.note? = some source) (hk : p.KeepsTo source x.index) (ha : x.apply p = .ok done) :
    (∀ path, path ≠ source.path →
        done.indexer.index.layersOf path =
          (x.index.layersOf path).map done.indexer.graph.stamp) ∧
      (p.scope = .removal source → done.indexer.index.layersOf source.path = []) := by
  rcases cases_of_apply_of_builtOn hb ha with ⟨hn, rfl⟩ | ⟨next, notes, ls, hn, hnext, hls, rfl⟩
  · refine ⟨fun path _ => ?_, fun hscope =>
      LayerIndex.layersOf_of_hasLayersOf_eq_false (hk.nothing hn hscope)⟩
    -- Nothing changes, and the markers have the numbers of relations that they had.
    have hcounts : ∀ l ∈ x.index.layersOf path, x.graph.stamp l = l := fun l hl =>
      (h.counts (h.wf.mem_layersOf.1 hl).1).stamp_eq
    exact ((List.map_congr_left hcounts).trans (List.map_id _)).symm
  · have hfits : next.Fits p.scope x.index := hnext ▸ NextState.fits_beside x.index notes hls
    refine ⟨fun path hp =>
      layersOf_reconcileNext_of_ne h.wf hfits hs (hk.candidates next hn) hp, fun hscope => ?_⟩
    show (reconcileNext x.index p.scope next).1.layersOf source.path = []
    rw [hscope]
    exact layersOf_reconcileNext_removal x.index source next

end Indexer

namespace Session

variable {s : Session}

/-- **An update of one note leaves the layers of all others in place.** Whatever was prepared,
applied and edited before, in any order, and whichever ids notes share: when an update of a note is
applied, every other note has the same layers as before, in the same order, each of them as it was
but for a marker's number of relations, which is the one in the new graph. After a removal the note
has no layers. -/
theorem layers_of_others_after_update (h : s.Reachable) {k : Nat} {p : PendingUpdate}
    {done : Indexer.Applied} (hk : s.pending[k]? = some p) (ha : s.indexer.apply p = .ok done)
    (hs : p.scope.note? = some source) :
    (s.step (.apply k)).indexer = done.indexer ∧
      (∀ path, path ≠ source.path →
        done.indexer.index.layersOf path =
          (s.indexer.index.layersOf path).map done.indexer.graph.stamp) ∧
      (p.scope = .removal source → done.indexer.index.layersOf source.path = []) := by
  have hmem := List.mem_of_getElem? hk
  have hg := Indexer.apply_isOk_iff.1 ⟨done, ha⟩
  have hcurrent : s.Current fun p i => ∀ source, p.scope.note? = some source → p.KeepsTo source i :=
    h.current fun _ _ _ _ hp _ => Indexer.keepsTo_prepare hp
  refine ⟨by simp only [step, hk, ha], ?_⟩
  exact Indexer.layersOf_apply h.consistent.counted (h.consistent.built p hmem hg) hs
    (hcurrent p hmem hg source hs) ha

/-- A note is removed to which another note links; a third note has the same place as that one,
under the same name. -/
theorem layers_of_others_after_update_removal :
    ∃ (s : Session) (p : PendingUpdate) (done : Indexer.Applied),
      s.Reachable ∧ s.pending[0]? = some p ∧ s.indexer.apply p = .ok done ∧
        p.scope = .removal ⟨"B.md"⟩ ∧
          (s.indexer.index.layersOf "A.md").map Layer.id = ["A.md1200"] ∧
            done.indexer.index.layersOf "A.md" =
                (s.indexer.index.layersOf "A.md").map done.indexer.graph.stamp ∧
              done.indexer.index.layersOf "B.md" = [] := by
  let store := NoteStore.ofList
    [("A.md", "[a](geo:1,2) [[B]]"), ("B.md", "[b](geo:3,4)"), ("X/A.md", "[a](geo:1,2)")]
  let actions : List Action :=
    [.prepare .full, .apply 0, .edit (store.drop ⟨"B.md"⟩).notes, .prepare (.removal ⟨"B.md"⟩)]
  have hcheck : (Indexer.new .default).toOption.any (fun x =>
      let s := (start x store.notes).run actions
      s.pending[0]?.any fun p => (s.indexer.apply p).isOk && p.scope == .removal ⟨"B.md"⟩ &&
        (s.indexer.index.layersOf "A.md").map Layer.id == ["A.md1200"]) = true := by
    decide +kernel
  obtain ⟨x, hx, hcheck⟩ := exists_of_any_toOption hcheck
  change Option.any _ ((start x store.notes).run actions).pending[0]? = true at hcheck
  obtain ⟨p, hp, hcheck⟩ := (Option.any_eq_true ..).1 hcheck
  rw [Bool.and_eq_true, Bool.and_eq_true, beq_iff_eq, beq_iff_eq] at hcheck
  obtain ⟨⟨hok, hscope⟩, hbefore⟩ := hcheck
  cases hdone : ((start x store.notes).run actions).indexer.apply p with
  | error e =>
    rw [hdone] at hok
    cases hok
  | ok done =>
    have hreach := (Reachable.start hx store.notes).run actions
    have hnote : p.scope.note? = some ⟨"B.md"⟩ := by rw [hscope]; rfl
    obtain ⟨-, hothers, hgone⟩ := layers_of_others_after_update hreach hp hdone hnote
    exact ⟨_, p, done, hreach, hp, hdone, hscope, hbefore, hothers "A.md" (by decide),
      hgone hscope⟩

end Session

end Gazetteer
