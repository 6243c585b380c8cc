import Gazetteer.Proofs.Indexer.Consistency
import Mathlib.Data.Finset.SDiff

/-!
# Following an index by its events

Whoever hears of every event can keep the set of indexed ids without ever looking at the index
(`LayerEvent.known`). The events of an update are made of its reconciliation and not of the index,
so first the reconciliation has to say how the ids change (`Reconciliation.Changes`): the layers
beside an update keep their ids, the layers it is about are removed unless a candidate has their id,
and candidates with new ids are added. This needs the update to be built against the index that it
is applied to, which holds in every session.
-/

namespace Gazetteer

variable {i : LayerIndex} {l old : Layer} {ls : List Layer} {id : String}

/-! ## Sets of ids -/

/-- The ids of some layers. -/
def Layer.idsOf (ls : List Layer) : Finset String :=
  (ls.map Layer.id).toFinset

/-- The ids in use. -/
def LayerIndex.idSet (i : LayerIndex) : Finset String :=
  i.ids.toFinset

@[simp] theorem Layer.mem_idsOf : id ∈ Layer.idsOf ls ↔ ∃ l ∈ ls, l.id = id := by
  unfold Layer.idsOf
  rw [List.mem_toFinset, List.mem_map]

@[simp] theorem LayerIndex.mem_idSet : id ∈ i.idSet ↔ i.contains id = true := by
  unfold LayerIndex.idSet LayerIndex.ids
  rw [List.mem_toFinset, SortedMap.mem_keys_iff]
  rfl

namespace LayerEvent

/-- The ids that are known after an event. -/
def learn (known : Finset String) : LayerEvent → Finset String
  | .added ids => known ∪ ids.toFinset
  | .removed ids => known \ ids.toFinset
  | _ => known

/-- The ids that are known after some events to someone who knew none. -/
def known (events : List LayerEvent) : Finset String :=
  events.foldl learn ∅

theorem known_append (es es' : List LayerEvent) :
    known (es ++ es') = es'.foldl learn (known es) :=
  List.foldl_append

end LayerEvent

/-- A reconciliation says how the ids of an index change. -/
structure Reconciliation.Changes (r : Reconciliation) (before after : Finset String) : Prop where
  removed : Layer.idsOf r.removed ⊆ before
  added : Disjoint (Layer.idsOf r.added) before
  updated : Layer.idsOf r.updated ⊆ before ∩ after
  after_eq : after = (before \ Layer.idsOf r.removed) ∪ Layer.idsOf r.added

/-- Ids that are added before others are removed are still there. -/
theorem Reconciliation.Changes.after_eq_sdiff {r : Reconciliation} {before after : Finset String}
    (h : r.Changes before after) :
    (before ∪ Layer.idsOf r.added) \ Layer.idsOf r.removed = after := by
  have hapart : Disjoint (Layer.idsOf r.added) (Layer.idsOf r.removed) :=
    h.added.mono_right h.removed
  rw [Finset.union_sdiff_distrib, Finset.sdiff_eq_self_of_disjoint hapart, ← h.after_eq]

/-- An update that changes nothing. -/
theorem Reconciliation.Changes.refl (before : Finset String) :
    ({} : Reconciliation).Changes before before where
  removed := by simp [Layer.idsOf]
  added := by simp [Layer.idsOf]
  updated := by simp [Layer.idsOf]
  after_eq := by simp [Layer.idsOf]

/-! ## What a reconciliation says -/

namespace LayerIndex

variable {existing candidates : List Layer}

/-- Layers are removed if no candidate that counts has their id. -/
theorem mem_idsOf_removed :
    id ∈ Layer.idsOf (i.reconcileWith existing candidates).removed ↔
      (∃ old ∈ existing, old.id = id) ∧ ¬∃ c ∈ distinctLayers [] candidates, c.id = id := by
  rw [Layer.mem_idsOf]
  simp only [reconcileWith, List.mem_filter, Bool.not_eq_true', List.any_eq_false, beq_iff_eq]
  constructor
  · rintro ⟨old, ⟨hold, hno⟩, rfl⟩
    exact ⟨⟨old, hold, rfl⟩, fun ⟨c, hc, hid⟩ => hno c hc hid⟩
  · rintro ⟨⟨old, hold, rfl⟩, hno⟩
    exact ⟨old, ⟨hold, fun c hc hid => hno ⟨c, hc, hid⟩⟩, rfl⟩

/-- Candidates that count are added if their id is not in use. -/
theorem mem_idsOf_added :
    id ∈ Layer.idsOf (i.reconcileWith existing candidates).added ↔
      i.contains id = false ∧ ∃ c ∈ distinctLayers [] candidates, c.id = id := by
  rw [Layer.mem_idsOf]
  simp only [reconcileWith, List.mem_filter, Bool.not_eq_true']
  constructor
  · rintro ⟨c, ⟨hc, hno⟩, rfl⟩
    exact ⟨hno, c, hc, rfl⟩
  · rintro ⟨hno, c, hc, rfl⟩
    exact ⟨c, ⟨hc, hno⟩, rfl⟩

/-- Only candidates whose id is in use are updates. -/
theorem of_mem_updated (h : l ∈ (i.reconcileWith existing candidates).updated) :
    l ∈ distinctLayers [] candidates ∧ i.contains l.id = true := by
  obtain ⟨hc, hu⟩ := List.mem_filter.1 h
  unfold isUpdate at hu
  rw [Bool.and_eq_true] at hu
  exact ⟨hc, hu.1⟩

end LayerIndex

namespace UpdateScope

/-- The layers that an update is about: they go unless it has candidates with their ids. -/
def replaced (scope : UpdateScope) (i : LayerIndex) : List Layer :=
  match scope with
  | .full => i.layers
  | .file source | .removal source => i.layersOf source.path

/-- Every indexed layer is beside an update or one that it is about. -/
theorem contains_iff (scope : UpdateScope) (h : i.WF) :
    i.contains id = true ↔
      (∃ old ∈ scope.others i, old.id = id) ∨ ∃ old ∈ scope.replaced i, old.id = id := by
  have hlayers : i.contains id = true ↔ ∃ old ∈ i.layers, old.id = id := by
    rw [LayerIndex.contains_iff]
    constructor
    · rintro ⟨l, hg⟩
      exact ⟨l, h.mem_layers.2 (by rw [h.id_eq hg]; exact hg), h.id_eq hg⟩
    · rintro ⟨l, hl, rfl⟩
      exact ⟨l, h.mem_layers.1 hl⟩
  have hsource : ∀ source : SourceRef, i.contains id = true ↔
      (∃ old ∈ i.others source, old.id = id) ∨ ∃ old ∈ i.layersOf source.path, old.id = id := by
    intro source
    simp only [hlayers, h.mem_layers, h.mem_others, h.mem_layersOf, ← exists_or]
    refine exists_congr fun old => ?_
    by_cases hs : old.source? = some source <;> simp [hs]
  cases scope with
  | full => simp [hlayers, replaced]
  | file source => exact hsource source
  | removal source => exact hsource source

/-- No layer beside an update has the id of one that it is about. -/
theorem id_ne_of_mem_replaced (scope : UpdateScope) (h : i.WF) {l : Layer}
    (ho : old ∈ scope.others i) (hl : l ∈ scope.replaced i) : old.id ≠ l.id := by
  have hsource : ∀ source : SourceRef, old ∈ i.others source → l ∈ i.layersOf source.path →
      old.id ≠ l.id := by
    intro source ho hl he
    obtain ⟨hg, hs⟩ := h.mem_others.1 ho
    obtain ⟨hg', hs'⟩ := h.mem_layersOf.1 hl
    rw [he, hg', Option.some.injEq] at hg
    exact hs (hg ▸ hs')
  cases scope with
  | full => cases ho
  | file source => exact hsource source ho hl
  | removal source => exact hsource source ho hl

end UpdateScope

namespace Indexer

variable {scope : UpdateScope} {next : NextState}

/-- Whatever an update is about, its reconciliation compares the candidates with the layers that it
is about. -/
theorem reconcileScope_snd (i : LayerIndex) {candidates : List Layer}
    (hc : ∀ source, scope = .removal source → candidates = []) :
    (reconcileScope i scope candidates).2 = i.reconcileWith (scope.replaced i) candidates := by
  cases scope with
  | full => rfl
  | file source => rfl
  | removal source =>
    rw [hc source rfl]
    simp [reconcileScope, LayerIndex.reconcileWith, distinctLayers, UpdateScope.replaced]

/-- Only restamped markers are reported beside what was compared. -/
theorem putRestamped_snd (i : LayerIndex) (updated ls : List Layer) :
    ∃ rs, rs.Sublist ls ∧ (putRestamped i updated ls).2 = updated ++ rs := by
  induction ls generalizing i updated with
  | nil => exact ⟨[], .slnil, (List.append_nil _).symm⟩
  | cons r ls ih =>
    unfold putRestamped
    split
    · obtain ⟨rs, hrs, heq⟩ := ih (i.replace r) (updated ++ [r])
      exact ⟨r :: rs, hrs.cons_cons r, by rw [heq, List.append_assoc, List.singleton_append]⟩
    · obtain ⟨rs, hrs, heq⟩ := ih i updated
      exact ⟨rs, hrs.cons r, heq⟩

/-- What is reported: the comparison of the candidates, and markers that were restamped. -/
theorem exists_reconcileNext_snd (hf : next.Fits scope i) :
    ∃ rs, rs.Sublist ((scope.others i).filterMap next.graph.restamp?) ∧
      (reconcileNext i scope next).2 =
        { i.reconcileWith (scope.replaced i) next.candidates with
          updated := (i.reconcileWith (scope.replaced i) next.candidates).updated ++ rs } := by
  have hscope := reconcileScope_snd i hf.candidates
  obtain ⟨rs, hrs, heq⟩ := putRestamped_snd (reconcileScope i scope next.candidates).1
    (reconcileScope i scope next.candidates).2.updated next.restamped
  rw [hf.restamped] at hrs
  refine ⟨rs, hrs, ?_⟩
  rw [← hscope, ← heq]
  rfl

/-- The layers that an update replaces come from its candidates or are markers beside it. -/
theorem exists_of_mem_updated (hf : next.Fits scope i)
    (hl : l ∈ (reconcileNext i scope next).2.updated) :
    l ∈ distinctLayers [] next.candidates ∧ i.contains l.id = true ∨
      ∃ old ∈ scope.others i, old.id = l.id := by
  obtain ⟨rs, hrs, heq⟩ := exists_reconcileNext_snd hf
  rw [heq] at hl
  rcases List.mem_append.1 hl with hl | hl
  · exact Or.inl (LayerIndex.of_mem_updated hl)
  · obtain ⟨old, hold, hr⟩ := List.mem_filterMap.1 (hrs.subset hl)
    exact Or.inr ⟨old, hold, by rw [LinkGraph.eq_stamp_of_restamp? hr, LinkGraph.id_stamp]⟩

theorem changes_reconcileNext (h : i.WF) (hf : next.Fits scope i) :
    (reconcileNext i scope next).2.Changes i.idSet (reconcileNext i scope next).1.idSet := by
  obtain ⟨rs, -, hr⟩ := exists_reconcileNext_snd hf
  have hremoved : (reconcileNext i scope next).2.removed =
      (i.reconcileWith (scope.replaced i) next.candidates).removed := by rw [hr]
  have hadded : (reconcileNext i scope next).2.added =
      (i.reconcileWith (scope.replaced i) next.candidates).added := by rw [hr]
  have hbefore : ∀ {id}, i.contains id = true ↔ _ := fun {_} => scope.contains_iff h
  refine ⟨fun id hid => ?_, Finset.disjoint_left.2 fun id hid hmem => ?_, fun id hid => ?_, ?_⟩
  · rw [hremoved, LayerIndex.mem_idsOf_removed] at hid
    exact LayerIndex.mem_idSet.2 (hbefore.2 (Or.inr hid.1))
  · rw [hadded, LayerIndex.mem_idsOf_added] at hid
    rw [LayerIndex.mem_idSet, hid.1] at hmem
    cases hmem
  · obtain ⟨l, hl, rfl⟩ := Layer.mem_idsOf.1 hid
    rw [Finset.mem_inter, LayerIndex.mem_idSet, LayerIndex.mem_idSet,
      contains_reconcileNext_iff h hf]
    rcases exists_of_mem_updated hf hl with ⟨hc, hin⟩ | hold
    · exact ⟨hin, Or.inr ⟨l, hc, rfl⟩⟩
    · exact ⟨hbefore.2 (Or.inl hold), Or.inl hold⟩
  · ext id
    rw [Finset.mem_union, Finset.mem_sdiff, hremoved, hadded, LayerIndex.mem_idsOf_removed,
      LayerIndex.mem_idsOf_added, LayerIndex.mem_idSet, LayerIndex.mem_idSet,
      contains_reconcileNext_iff h hf]
    -- The ids beside the update are in use before and after; no layer that it is about has one.
    have hbeside : (∃ old ∈ scope.others i, old.id = id) →
        i.contains id = true ∧ ¬∃ old ∈ scope.replaced i, old.id = id := by
      rintro ⟨old, hold, rfl⟩
      refine ⟨hbefore.2 (Or.inl ⟨old, hold, rfl⟩), ?_⟩
      rintro ⟨l, hl, hid⟩
      exact scope.id_ne_of_mem_replaced h hold hl hid.symm
    have hb : i.contains id = true ↔ _ := hbefore
    by_cases ho : ∃ old ∈ scope.others i, old.id = id
    · obtain ⟨hin, hno⟩ := hbeside ho
      exact iff_of_true (Or.inl ho) (Or.inl ⟨hin, fun hrem => hno hrem.1⟩)
    · cases hin : i.contains id with
      | true =>
        have hrep := (hb.1 hin).resolve_left ho
        simp [ho, hrep]
      | false => simp [ho]

/-! ## What the events say -/

variable {x : Indexer} {p : PendingUpdate} {done : Applied}

theorem foldl_learn_eventOf_added (known : Finset String) (ls : List Layer) :
    (eventOf .added ls).foldl LayerEvent.learn known = known ∪ Layer.idsOf ls := by
  cases ls with
  | nil => simp [eventOf, Layer.idsOf]
  | cons l ls => rfl

theorem foldl_learn_eventOf_removed (known : Finset String) (ls : List Layer) :
    (eventOf .removed ls).foldl LayerEvent.learn known = known \ Layer.idsOf ls := by
  cases ls with
  | nil => simp [eventOf, Layer.idsOf]
  | cons l ls => rfl

theorem foldl_learn_eventOf_updated (known : Finset String) (ls : List Layer) :
    (eventOf .updated ls).foldl LayerEvent.learn known = known := by
  cases ls <;> rfl

/-- The events of an update tell which ids are added and then which are removed. -/
theorem foldl_learn_eventsOf (known : Finset String) (scope : UpdateScope) (r : Reconciliation)
    (i : LayerIndex) (g : LinkGraph) :
    (eventsOf scope r i g).foldl LayerEvent.learn known =
      (known ∪ Layer.idsOf r.added) \ Layer.idsOf r.removed := by
  unfold eventsOf
  rw [List.foldl_append, List.foldl_append, List.foldl_append, List.foldl_append,
    foldl_learn_eventOf_added, foldl_learn_eventOf_updated, foldl_learn_eventOf_removed]
  cases scope <;> rfl

/-- An update that was built against the index says how the ids change, and so do its events. -/
theorem changes_apply (h : x.index.WF) (hp : p.BuiltOn x.index) (ha : x.apply p = .ok done) :
    done.reconciliation.Changes x.index.idSet done.indexer.index.idSet ∧
      done.events.foldl LayerEvent.learn x.index.idSet = done.indexer.index.idSet := by
  rcases cases_of_apply_of_builtOn hp ha with ⟨-, rfl⟩ | ⟨next, notes, ls, -, hnext, hls, rfl⟩
  · exact ⟨.refl _, rfl⟩
  · have hc : (reconcileNext x.index p.scope next).2.Changes x.index.idSet
        (reconcileNext x.index p.scope next).1.idSet :=
      changes_reconcileNext h (hnext ▸ NextState.fits_beside x.index notes hls)
    exact ⟨hc, (foldl_learn_eventsOf ..).trans hc.after_eq_sdiff⟩

end Indexer

namespace Session

variable {s : Session}

/-- Whoever heard of every event of a session knows the ids in use. -/
theorem Reachable.known_events (h : s.Reachable) :
    LayerEvent.known s.events = s.indexer.index.idSet := by
  induction h with
  | start hx notes =>
    rw [Session.start, (Indexer.new_eq_ok hx).1]
    rfl
  | @step s h a ih =>
    cases a with
    | edit notes => exact ih
    | prepare scope =>
      obtain ⟨p, -, hs⟩ | hs := s.step_prepare_cases scope <;> rw [hs] <;> exact ih
    | apply k =>
      obtain hs | ⟨p, hk, ⟨-, hs⟩ | ⟨done, hdone, hs⟩⟩ := s.step_apply_cases k
      · rw [hs]
        exact ih
      · rw [hs]
        exact ih
      · have hp := h.consistent.built p (List.mem_of_getElem? hk)
          (Indexer.apply_isOk_iff.1 ⟨done, hdone⟩)
        rw [hs, LayerEvent.known_append, ih]
        exact (Indexer.changes_apply h.consistent.counted.wf hp hdone).2

/-- **The events tell the ids.** Whatever was prepared, applied and edited, in any order, whoever
heard of every event knows the ids in use. Each update that is applied removes ids that were in use,
adds others that were not, replaces layers only where the id stays, and changes no other id. -/
theorem known_events_of_reachable (h : s.Reachable) :
    LayerEvent.known s.events = s.indexer.index.idSet ∧
      ∀ k p done, s.pending[k]? = some p → s.indexer.apply p = .ok done →
        done.reconciliation.Changes s.indexer.index.idSet done.indexer.index.idSet ∧
          (s.step (.apply k)).indexer = done.indexer ∧
            LayerEvent.known (s.step (.apply k)).events = done.indexer.index.idSet := by
  refine ⟨h.known_events, fun k p done hk hdone => ?_⟩
  have hg := Indexer.apply_isOk_iff.1 ⟨done, hdone⟩
  have hp := h.consistent.built p (List.mem_of_getElem? hk) hg
  have hstep : (s.step (.apply k)).indexer = done.indexer := by simp only [step, hk, hdone]
  refine ⟨(Indexer.changes_apply h.consistent.counted.wf hp hdone).1, hstep, ?_⟩
  rw [(h.step (.apply k)).known_events, hstep]

/-- Two notes of one name hold the same place, so that only the first one of them is indexed. Then
all places move, a removal that was prepared becomes stale, and everything is indexed anew. -/
theorem known_events_of_shared_id :
    ∃ (s : Session) (p : PendingUpdate) (done : Indexer.Applied),
      s.Reachable ∧ s.pending[0]? = some p ∧ s.indexer.apply p = .ok done ∧
        s.indexer.index.ids = ["A.md1200", "B.md3400"] ∧
          done.indexer.index.ids = ["A.md5600", "C.md7800"] ∧
            LayerEvent.known s.events = s.indexer.index.idSet ∧
              done.reconciliation.Changes s.indexer.index.idSet done.indexer.index.idSet ∧
                LayerEvent.known (s.step (.apply 0)).events = done.indexer.index.idSet := by
  let store := NoteStore.ofList
    [("A.md", "[a](geo:1,2)"), ("B.md", "[b](geo:3,4) [[A]]"), ("X/A.md", "[a](geo:1,2)")]
  let moved := NoteStore.ofList [("A.md", "[a](geo:5,6)"), ("C.md", "[c](geo:7,8) [[A]]")]
  let actions : List Action :=
    [.prepare .full, .apply 0, .edit moved.notes, .prepare (.removal ⟨"B.md"⟩), .prepare .full,
      .apply 0]
  have hcheck : (Indexer.new .default).toOption.any (fun x =>
      let s := (start x store.notes).run actions
      s.pending[0]?.any fun p => (s.indexer.apply p).toOption.any fun done =>
        s.indexer.index.ids == ["A.md1200", "B.md3400"] &&
          done.indexer.index.ids == ["A.md5600", "C.md7800"]) = true := by
    decide +kernel
  cases hx : Indexer.new .default with
  | error e =>
    rw [hx] at hcheck
    cases hcheck
  | ok x =>
    rw [hx] at hcheck
    change Option.any _ ((start x store.notes).run actions).pending[0]? = true at hcheck
    obtain ⟨p, hp, hcheck⟩ := (Option.any_eq_true ..).1 hcheck
    cases hdone : ((start x store.notes).run actions).indexer.apply p with
    | error e =>
      rw [hdone] at hcheck
      cases hcheck
    | ok done =>
      rw [hdone] at hcheck
      obtain ⟨hbefore, hafter⟩ := Bool.and_eq_true_iff.1 hcheck
      have hreach := (Reachable.start hx store.notes).run actions
      obtain ⟨hknown, happly⟩ := known_events_of_reachable hreach
      obtain ⟨hchanges, -, hlast⟩ := happly 0 p done hp hdone
      exact ⟨_, p, done, hreach, hp, hdone, beq_iff_eq.1 hbefore, beq_iff_eq.1 hafter, hknown,
        hchanges, hlast⟩

end Session

end Gazetteer
