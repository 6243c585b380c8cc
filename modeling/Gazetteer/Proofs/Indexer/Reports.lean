import Gazetteer.Proofs.Indexer.Frame
import Gazetteer.Proofs.Indexer.Replay

/-!
# What is reported and what is indexed

An update compares its candidates with all indexed layers, but a candidate whose id a layer of
another note uses does not come in. So what is reported is not always what is indexed: such a
candidate is reported as the layer that takes the place of the other note's one, which stays where
it is (`Layer.contestedBy`). Everything else that is reported is indexed, and reported once
(`Reconciliation.Reports`).
-/

namespace Gazetteer

variable {i : LayerIndex} {l old c : Layer} {ls others : List Layer} {id : String}
  {scope : UpdateScope} {next : NextState}

/-- The id of a layer is in use for a layer of another note. -/
def Layer.contestedBy (others : List Layer) (l : Layer) : Bool :=
  others.any fun old => old.id == l.id && old.source? != l.source?

theorem Layer.contestedBy_iff :
    l.contestedBy others = true ↔ ∃ old ∈ others, old.id = l.id ∧ old.source? ≠ l.source? := by
  simp [Layer.contestedBy]

/-- What is reported of an update, with the layers that stayed beside it and the graph and the index
after it. -/
structure Reconciliation.Reports (r : Reconciliation) (others : List Layer) (g : LinkGraph)
    (i : LayerIndex) : Prop where
  kept : ∀ l ∈ r.kept, i.get? l.id = some l
  added : ∀ l ∈ r.added, i.get? l.id = some l
  updated : ∀ l ∈ r.updated, l.contestedBy others = false → i.get? l.id = some l
  contested : ∀ l ∈ r.updated, l.contestedBy others = true →
    ∃ old ∈ others, old.id = l.id ∧ old.source? ≠ l.source? ∧ i.get? l.id = some (g.stamp old)
  once : ((r.kept ++ r.added ++ r.updated.filter (fun l => !l.contestedBy others) ++
    r.removed).map Layer.id).Nodup
  contested_once : ((r.kept ++ r.added ++ r.updated.filter (fun l => l.contestedBy others) ++
    r.removed).map Layer.id).Nodup

/-- Nothing is reported of an update that changes nothing. -/
theorem Reconciliation.reports_nothing (others : List Layer) (g : LinkGraph) (i : LayerIndex) :
    ({} : Reconciliation).Reports others g i where
  kept _ hl := absurd hl List.not_mem_nil
  added _ hl := absurd hl List.not_mem_nil
  updated _ hl := absurd hl List.not_mem_nil
  contested _ hl := absurd hl List.not_mem_nil
  once := List.nodup_nil
  contested_once := List.nodup_nil

/-- Without contested ids, all that is reported is indexed and no id is reported twice. -/
theorem Reconciliation.Reports.of_uncontested {r : Reconciliation} {g : LinkGraph}
    (h : r.Reports others g i) (hfree : ∀ l ∈ r.updated, l.contestedBy others = false) :
    (∀ l ∈ r.present, i.get? l.id = some l) ∧ ((r.present ++ r.removed).map Layer.id).Nodup := by
  have hall : r.updated.filter (fun l => !l.contestedBy others) = r.updated :=
    List.filter_eq_self.2 fun l hl => by rw [hfree l hl]; rfl
  have honce := h.once
  rw [hall] at honce
  refine ⟨fun l hl => ?_, honce⟩
  rcases List.mem_append.1 hl with hl | hl
  · rcases List.mem_append.1 hl with hl | hl
    · exact h.kept l hl
    · exact h.added l hl
  · exact h.updated l hl (hfree l hl)

theorem Layer.nodup_ids_append {ks : List Layer} (hks : (ks.map Layer.id).Nodup)
    (hls : (ls.map Layer.id).Nodup) (hne : ∀ k ∈ ks, ∀ l ∈ ls, k.id ≠ l.id) :
    ((ks ++ ls).map Layer.id).Nodup := by
  rw [List.map_append, List.nodup_append]
  refine ⟨hks, hls, fun a ha b hb => ?_⟩
  obtain ⟨k, hk, rfl⟩ := List.mem_map.1 ha
  obtain ⟨l, hl, rfl⟩ := List.mem_map.1 hb
  exact hne k hk l hl

/-! ## The layers beside an update -/

namespace UpdateScope

theorem get?_of_mem_others (h : i.WF) (ho : old ∈ scope.others i) : i.get? old.id = some old := by
  cases scope with
  | full => cases ho
  | file source => exact (h.mem_others.1 ho).1
  | removal source => exact (h.mem_others.1 ho).1

theorem nodup_ids_others (scope : UpdateScope) (h : i.WF) :
    ((scope.others i).map Layer.id).Nodup := by
  cases scope with
  | full => exact List.nodup_nil
  | file source => exact h.nodup_ids_others source
  | removal source => exact h.nodup_ids_others source

theorem nodup_ids_replaced (scope : UpdateScope) (h : i.WF) :
    ((scope.replaced i).map Layer.id).Nodup := by
  cases scope with
  | full => exact h.nodup_ids_layers
  | file source => exact h.nodup_ids source.path
  | removal source => exact h.nodup_ids source.path

/-- A layer that was restamped is the one beside the update with its id. -/
theorem exists_of_mem_restamped {g : LinkGraph}
    (hl : l ∈ (scope.others i).filterMap g.restamp?) :
    ∃ old ∈ scope.others i, old.id = l.id ∧ old.source? = l.source? ∧ g.stamp old = l ∧
      ¬g.Counts old := by
  obtain ⟨old, ho, hr⟩ := List.mem_filterMap.1 hl
  have hstamp := LinkGraph.eq_stamp_of_restamp? hr
  have hcounts : ¬g.Counts old := by
    rw [← LinkGraph.restamp?_eq_none_iff, hr]
    exact Option.some_ne_none l
  refine ⟨old, ho, ?_, ?_, hstamp.symm, hcounts⟩
  · rw [hstamp, LinkGraph.id_stamp]
  · rw [hstamp, LinkGraph.source?_stamp]

/-- A marker that was restamped is not contested: its note is that of the layer with its id. -/
theorem contestedBy_of_mem_restamped {g : LinkGraph} (h : i.WF)
    (hl : l ∈ (scope.others i).filterMap g.restamp?) : l.contestedBy (scope.others i) = false := by
  rw [← Bool.not_eq_true, Layer.contestedBy_iff]
  rintro ⟨old', ho', hid', hs'⟩
  obtain ⟨old, ho, hid, hs, -, -⟩ := exists_of_mem_restamped hl
  have hget := get?_of_mem_others h ho
  have hget' := get?_of_mem_others h ho'
  rw [hid] at hget
  rw [hid', hget, Option.some.injEq] at hget'
  rw [← hget'] at hs'
  exact hs' hs

end UpdateScope

namespace Indexer

/-- An updated candidate is contested if any layer beside the update has its id. -/
theorem contestedBy_iff_of_mem_updated
    (hown : ∀ c ∈ next.candidates, ∀ old ∈ scope.others i, old.source? ≠ c.source?)
    (hl : l ∈ (i.reconcileWith (scope.replaced i) next.candidates).updated) :
    l.contestedBy (scope.others i) = true ↔ ∃ old ∈ scope.others i, old.id = l.id := by
  have hc := mem_of_mem_distinctLayers (LayerIndex.of_mem_updated hl).1
  rw [Layer.contestedBy_iff]
  constructor
  · rintro ⟨old, ho, hid, -⟩
    exact ⟨old, ho, hid⟩
  · rintro ⟨old, ho, hid⟩
    exact ⟨old, ho, hid, hown l hc old ho⟩

/-! ## What is indexed of what is reported -/

section Next

variable (h : i.WF) (hf : next.Fits scope i)

include h hf

theorem get?_reconcileNext_beside (ho : old ∈ scope.others i) :
    (reconcileNext i scope next).1.get? old.id = some (next.graph.stamp old) :=
  (get?_reconcileNext h hf).2 (Or.inl ⟨old, ho, rfl, rfl⟩)

theorem get?_reconcileNext_candidate (hc : c ∈ distinctLayers [] next.candidates)
    (hfree : ∀ old ∈ scope.others i, old.id ≠ c.id) :
    (reconcileNext i scope next).1.get? c.id = some (i.settle c) :=
  (get?_reconcileNext h hf).2 (Or.inr ⟨hfree, c, hc, rfl, rfl⟩)

/-- A layer that was kept is indexed, be it of the note of the update or of another one. -/
theorem get?_of_mem_kept (hcounts : ∀ c ∈ next.candidates, next.graph.Counts c)
    (hl : l ∈ (i.reconcileWith (scope.replaced i) next.candidates).kept) :
    (reconcileNext i scope next).1.get? l.id = some l ∧ next.graph.Counts l := by
  obtain ⟨c, hc, hk⟩ := List.mem_filterMap.1 hl
  obtain ⟨hg, hsame⟩ := LayerIndex.kept?_eq_some_iff.1 hk
  have hid : l.id = c.id := h.id_eq hg
  have hcounted : next.graph.Counts l :=
    (hcounts c (mem_of_mem_distinctLayers hc)).of_sameContent hid hsame
  refine ⟨?_, hcounted⟩
  by_cases hbeside : ∃ old ∈ scope.others i, old.id = c.id
  · obtain ⟨old, ho, hoid⟩ := hbeside
    have hold := UpdateScope.get?_of_mem_others h ho
    rw [hoid, hg, Option.some.injEq] at hold
    subst hold
    rw [get?_reconcileNext_beside h hf ho, hcounted.stamp_eq]
  · have hsettle : i.settle c = l := by rw [LayerIndex.settle, hk, Option.getD_some]
    rw [hid, get?_reconcileNext_candidate h hf hc fun old ho he => hbeside ⟨old, ho, he⟩, hsettle]

theorem get?_of_mem_added
    (hl : l ∈ (i.reconcileWith (scope.replaced i) next.candidates).added) :
    (reconcileNext i scope next).1.get? l.id = some l := by
  obtain ⟨hc, hnew⟩ := List.mem_filter.1 hl
  rw [Bool.not_eq_true'] at hnew
  have hfree : ∀ old ∈ scope.others i, old.id ≠ l.id := by
    intro old ho he
    have hin := LayerIndex.contains_iff.2 ⟨old, UpdateScope.get?_of_mem_others h ho⟩
    rw [he, hnew] at hin
    cases hin
  have hsettle : i.settle l = l := by
    rcases i.settle_cases l with he | ⟨hg, -⟩
    · exact he
    · rw [LayerIndex.contains_iff.2 ⟨_, hg⟩] at hnew
      cases hnew
  rw [get?_reconcileNext_candidate h hf hc hfree, hsettle]

theorem get?_of_mem_updated
    (hl : l ∈ (i.reconcileWith (scope.replaced i) next.candidates).updated)
    (hfree : ∀ old ∈ scope.others i, old.id ≠ l.id) :
    (reconcileNext i scope next).1.get? l.id = some l := by
  obtain ⟨hc, hupdate⟩ := List.mem_filter.1 hl
  unfold LayerIndex.isUpdate at hupdate
  rw [Bool.and_eq_true, Option.isNone_iff_eq_none] at hupdate
  have hsettle : i.settle l = l := by rw [LayerIndex.settle, hupdate.2, Option.getD_none]
  rw [get?_reconcileNext_candidate h hf hc hfree, hsettle]

/-! ## Ids that are reported -/

/-- Reported layers have distinct ids as far as the updated candidates among them are apart from the
restamped markers. -/
theorem nodup_ids_reported (hcounts : ∀ c ∈ next.candidates, next.graph.Counts c)
    {us rs : List Layer}
    (hus : us.Sublist (i.reconcileWith (scope.replaced i) next.candidates).updated)
    (hrs : rs.Sublist ((scope.others i).filterMap next.graph.restamp?))
    (hapart : ∀ u ∈ us, ∀ r ∈ rs, u.id ≠ r.id) :
    let r := i.reconcileWith (scope.replaced i) next.candidates
    ((r.kept ++ r.added ++ (us ++ rs) ++ r.removed).map Layer.id).Nodup := by
  intro r
  have hpresent : (r.kept ++ r.added ++ us).Sublist r.present :=
    (List.Sublist.refl _).append hus
  have hrestamped : (rs.map Layer.id).Nodup :=
    (scope.nodup_ids_others h).sublist
      ((hrs.map Layer.id).trans (next.graph.restamp?_ids_sublist (scope.others i)))
  have hremoved : (r.removed.map Layer.id).Nodup :=
    (scope.nodup_ids_replaced h).sublist (List.filter_sublist.map _)
  rw [← List.append_assoc]
  refine Layer.nodup_ids_append (Layer.nodup_ids_append
    ((h.nodup_ids_present (scope.replaced i) next.candidates).sublist (hpresent.map Layer.id))
    hrestamped ?_) hremoved ?_
  · intro l hl m hm he
    obtain ⟨old, ho, hid, -, -, hnot⟩ := UpdateScope.exists_of_mem_restamped (hrs.subset hm)
    have hold := UpdateScope.get?_of_mem_others h ho
    rw [hid, ← he] at hold
    rcases List.mem_append.1 hl with hl | hl
    · rcases List.mem_append.1 hl with hl | hl
      · -- what is kept under the id of a marker beside the update is that marker, and counted
        obtain ⟨c, -, hk⟩ := List.mem_filterMap.1 hl
        have hg := (LayerIndex.kept?_eq_some_iff.1 hk).1
        rw [← h.id_eq hg, hold, Option.some.injEq] at hg
        exact hnot (hg ▸ (get?_of_mem_kept h hf hcounts hl).2)
      · have hnew := (List.mem_filter.1 hl).2
        rw [LayerIndex.contains_iff.2 ⟨old, hold⟩] at hnew
        cases hnew
    · exact hapart l hl m hm he
  · intro l hl m hm he
    obtain ⟨hm, hno⟩ := List.mem_filter.1 hm
    rcases List.mem_append.1 hl with hl | hl
    · obtain ⟨c, hc, rfl⟩ := LayerIndex.mem_present_iff.1 (hpresent.subset hl)
      rw [h.id_settle] at he
      rw [Bool.not_eq_true', List.any_eq_false] at hno
      exact hno c hc (beq_iff_eq.2 he)
    · obtain ⟨old, ho, hid, -⟩ := UpdateScope.exists_of_mem_restamped (hrs.subset hl)
      exact scope.id_ne_of_mem_replaced h ho hm (hid.trans he)

theorem reports_reconcileNext (hcounts : ∀ c ∈ next.candidates, next.graph.Counts c)
    (hown : ∀ c ∈ next.candidates, ∀ old ∈ scope.others i, old.source? ≠ c.source?) :
    (reconcileNext i scope next).2.Reports (scope.others i) next.graph
      (reconcileNext i scope next).1 := by
  obtain ⟨rs, hrs, heq⟩ := exists_reconcileNext_snd hf
  have hfree : ∀ r ∈ rs, r.contestedBy (scope.others i) = false := fun r hr =>
    UpdateScope.contestedBy_of_mem_restamped h (hrs.subset hr)
  have hrestamped : rs.filter (fun l => !l.contestedBy (scope.others i)) = rs :=
    List.filter_eq_self.2 fun l hl => by rw [hfree l hl]; rfl
  have hnone : rs.filter (fun l => l.contestedBy (scope.others i)) = [] :=
    List.filter_eq_nil_iff.2 fun l hl => by rw [hfree l hl]; exact Bool.false_ne_true
  rw [heq]
  refine ⟨fun l hl => (get?_of_mem_kept h hf hcounts hl).1, fun l => get?_of_mem_added h hf,
    fun l hl hl' => ?_, fun l hl hl' => ?_, ?_, ?_⟩
  · rcases List.mem_append.1 hl with hl | hl
    · refine get?_of_mem_updated h hf hl fun old ho hid => ?_
      rw [(contestedBy_iff_of_mem_updated hown hl).2 ⟨old, ho, hid⟩] at hl'
      cases hl'
    · obtain ⟨old, ho, hid, -, hstamp, -⟩ := UpdateScope.exists_of_mem_restamped (hrs.subset hl)
      rw [← hid, get?_reconcileNext_beside h hf ho, hstamp]
  · obtain ⟨old, ho, hid, hs⟩ := Layer.contestedBy_iff.1 hl'
    exact ⟨old, ho, hid, hs, hid ▸ get?_reconcileNext_beside h hf ho⟩
  · simp only [List.filter_append, hrestamped]
    refine nodup_ids_reported h hf hcounts List.filter_sublist hrs fun u hu r hr he => ?_
    obtain ⟨hu, hu'⟩ := List.mem_filter.1 hu
    obtain ⟨old, ho, hid, -⟩ := UpdateScope.exists_of_mem_restamped (hrs.subset hr)
    rw [(contestedBy_iff_of_mem_updated hown hu).2 ⟨old, ho, hid.trans he.symm⟩] at hu'
    cases hu'
  · simp only [List.filter_append, hnone]
    exact nodup_ids_reported h hf hcounts List.filter_sublist (List.nil_sublist _)
      fun _ _ _ hr => nomatch hr

end Next

/-! ## Updates that are applied -/

variable {x : Indexer} {p : PendingUpdate} {done : Applied}

/-- The candidates of an update come from other notes than the layers beside it. -/
theorem source?_ne_of_keepsTo (h : i.WF)
    (hk : ∀ source, p.scope.note? = some source → p.KeepsTo source i) (hn : p.next = some next) :
    ∀ c ∈ next.candidates, ∀ old ∈ p.scope.others i, old.source? ≠ c.source? := by
  intro c hc old ho
  cases hscope : p.scope with
  | full =>
    rw [hscope] at ho
    cases ho
  | file source =>
    rw [hscope] at ho
    rw [(hk source (by rw [hscope]; rfl)).candidates next hn c hc]
    exact (h.mem_others.1 ho).2
  | removal source =>
    rw [hscope] at ho
    rw [(hk source (by rw [hscope]; rfl)).candidates next hn c hc]
    exact (h.mem_others.1 ho).2

theorem reports_apply (h : x.index.WF) (hb : p.BuiltOn x.index)
    (hk : ∀ source, p.scope.note? = some source → p.KeepsTo source x.index)
    (ha : x.apply p = .ok done) :
    done.reconciliation.Reports (p.scope.others x.index) done.indexer.graph done.indexer.index ∧
      ((∀ source, p.scope ≠ .file source) →
        ∀ l ∈ done.reconciliation.updated, l.contestedBy (p.scope.others x.index) = false) := by
  rcases cases_of_apply_of_builtOn hb ha with ⟨-, rfl⟩ | ⟨next, notes, ls, hn, hnext, hls, rfl⟩
  · exact ⟨Reconciliation.reports_nothing .., fun _ _ hl => absurd hl List.not_mem_nil⟩
  · have hfits : next.Fits p.scope x.index := hnext ▸ NextState.fits_beside x.index notes hls
    have hcounts : ∀ c ∈ next.candidates, next.graph.Counts c := fun _ =>
      NextState.counts_of_mem_candidates hnext
    refine ⟨reports_reconcileNext h hfits hcounts (source?_ne_of_keepsTo h hk hn),
      fun hscope l hl => ?_⟩
    cases hs : p.scope with
    | full => rfl
    | file source => exact absurd hs (hscope source)
    | removal source =>
      obtain ⟨rs, hrs, heq⟩ := exists_reconcileNext_snd hfits
      change l ∈ (reconcileNext x.index p.scope next).2.updated at hl
      rw [heq, hfits.candidates source hs] at hl
      rw [← hs]
      exact UpdateScope.contestedBy_of_mem_restamped h (hrs.subset hl)

end Indexer

namespace Session

variable {s : Session}

/-- **What an update reports is what is indexed, as far as its ids are not contested.** Whatever was
prepared, applied and edited before, in any order, and whichever ids notes share: what an applied
update reports as kept, added or updated is indexed under its id, and no id is reported twice,
unless another note has a layer with the id of an updated one. Then the other note's layer is what
is indexed. Only updates of a note that may have changed can report such a layer. -/
theorem reports_after_update (h : s.Reachable) {k : Nat} {p : PendingUpdate}
    {done : Indexer.Applied} (hk : s.pending[k]? = some p) (ha : s.indexer.apply p = .ok done) :
    let others := p.scope.others s.indexer.index
    let r := done.reconciliation
    let i := done.indexer.index
    r.Reports others done.indexer.graph i ∧
      ((∀ source, p.scope ≠ .file source) → ∀ l ∈ r.updated, l.contestedBy others = false) ∧
      ((∀ l ∈ r.updated, l.contestedBy others = false) →
        (∀ l ∈ r.present, i.get? l.id = some l) ∧
          ((r.present ++ r.removed).map Layer.id).Nodup) := by
  intro others r i
  have hmem := List.mem_of_getElem? hk
  have hg := Indexer.apply_isOk_iff.1 ⟨done, ha⟩
  have hcurrent : s.Current fun p i => ∀ source, p.scope.note? = some source → p.KeepsTo source i :=
    h.current fun _ _ _ _ hp _ => Indexer.keepsTo_prepare hp
  have hcons := h.consistent
  obtain ⟨hreports, hfree⟩ := Indexer.reports_apply hcons.counted.wf (hcons.built p hmem hg)
    (hcurrent p hmem hg) ha
  exact ⟨hreports, hfree, hreports.of_uncontested⟩

/-- An update of a note with layers is prepared and applied. -/
theorem exists_apply_file (hp : s.pending = []) {source : SourceRef} {ls : List Layer}
    {ds : List DroppedFact} (hb : s.indexer.rebuild s.notes source = .ok (ls, ds)) (hne : ls ≠ []) :
    ∃ p done, (s.step (.prepare (.file source))).pending[0]? = some p ∧ p.scope = .file source ∧
      (s.step (.prepare (.file source))).indexer.apply p = .ok done ∧
      (s.step (.prepare (.file source))).indexer.index = s.indexer.index ∧
      (done.indexer.index, done.reconciliation) = Indexer.reconcileNext s.indexer.index
        (.file source) (.beside s.notes (s.indexer.index.others source) ls) := by
  have hprepare : s.indexer.prepare s.notes (.file source) =
      (s.indexer.advance, .ok (s.indexer.advance.fileUpdate s.notes source ls ds)) :=
    Prod.ext (Indexer.prepare_fst ..) (Indexer.prepareFile_eq_ok_iff.2 ⟨ls, ds, hb, rfl⟩)
  have hnext : (s.indexer.advance.fileUpdate s.notes source ls ds).next =
      some (.beside s.notes (s.indexer.index.others source) ls) := by
    refine if_neg ?_
    rw [List.isEmpty_eq_false_iff.2 hne, Bool.false_and]
    exact Bool.false_ne_true
  have hstep : s.step (.prepare (.file source)) =
      { s with indexer := s.indexer.advance
               pending := [s.indexer.advance.fileUpdate s.notes source ls ds] } := by
    simp only [step, hprepare, hp, List.nil_append]
  rw [hstep]
  exact ⟨_, _, rfl, rfl, Indexer.apply_of_next_eq_some rfl hnext, rfl, rfl⟩

section Runs

variable {x : Indexer} {notes' : Notes} {source : SourceRef}

/-- The index after everything was indexed for the first time, with the numbers of the links. -/
def firstIndex (x : Indexer) (notes : Notes) : LayerIndex :=
  (LayerIndex.empty.reconcile
    ((x.layersIn notes).map (LinkGraph.ofLinks notes (x.layersIn notes)).stamp)).toIndex

/-- What an update of a note with some layers puts into that index, and what it reports. -/
def secondUpdate (x : Indexer) (notes notes' : Notes) (source : SourceRef) (ls : List Layer) :
    LayerIndex × Reconciliation :=
  let i := firstIndex x notes
  let g := LinkGraph.ofLinks notes' (i.others source ++ ls)
  Indexer.reconcileNext i (.file source) ⟨ls.map g.stamp, (i.others source).filterMap g.restamp?, g⟩

/-- Everything is indexed for the first time, and then the notes change. -/
theorem exists_first_session {config : Config} (hx : Indexer.new config = .ok x)
    (notes notes' : Notes) :
    ∃ s : Session, s.Reachable ∧ s.notes = notes' ∧ s.pending = [] ∧
      s.indexer.index = firstIndex x notes ∧
        ∀ source, s.indexer.rebuild s.notes source = x.rebuild notes' source := by
  obtain ⟨d, hd⟩ := Indexer.exists_update_eq_ok (Indexer.prepare_full x notes)
  have hfirst := run_update (s := start x notes) rfl hd
  have hreach := (Reachable.start hx notes).run [.prepare .full, .apply 0]
  rw [hfirst] at hreach
  exact ⟨_, hreach.step (.edit notes'), rfl, rfl, Indexer.index_first_update_full hx hd,
    Indexer.rebuild_update hd notes'⟩

/-- Everything is indexed, the notes change, and a note that has layers is indexed again. -/
theorem exists_second_update {config : Config} (hx : Indexer.new config = .ok x) (notes : Notes)
    {ls : List Layer} {ds : List DroppedFact} (hb : x.rebuild notes' source = .ok (ls, ds))
    (hne : ls ≠ []) :
    ∃ (s : Session) (p : PendingUpdate) (done : Indexer.Applied), s.Reachable ∧
      s.pending[0]? = some p ∧ p.scope = .file source ∧ s.indexer.apply p = .ok done ∧
      s.indexer.index = firstIndex x notes ∧
      (done.indexer.index, done.reconciliation) = secondUpdate x notes notes' source ls := by
  obtain ⟨s, hreach, rfl, hempty, hindex, hrebuild⟩ := exists_first_session hx notes notes'
  obtain ⟨p, done, hp, hscope, hdone, hsame, heq⟩ :=
    exists_apply_file hempty ((hrebuild source).trans hb) hne
  refine ⟨_, p, done, hreach.step (.prepare (.file source)), hp, hscope, hdone,
    hsame.trans hindex, ?_⟩
  rw [heq, Indexer.reconcileNext_beside, hindex]
  rfl

end Runs

/-- A note gets another name for its place and a link to another note: its marker and that of the
other note are reported as updated. -/
theorem reports_after_update_link :
    ∃ (s : Session) (p : PendingUpdate) (done : Indexer.Applied),
      s.Reachable ∧ s.pending[0]? = some p ∧ s.indexer.apply p = .ok done ∧
        done.reconciliation.updated.map Layer.id = ["B.md3400", "A.md1200"] ∧
          done.reconciliation.Reports (p.scope.others s.indexer.index) done.indexer.graph
              done.indexer.index ∧
            (∀ l ∈ done.reconciliation.present, done.indexer.index.get? l.id = some l) ∧
              ((done.reconciliation.present ++ done.reconciliation.removed).map Layer.id).Nodup := by
  let store := NoteStore.ofList [("A.md", "[a](geo:1,2)"), ("B.md", "[b](geo:3,4)")]
  let store' := NoteStore.ofList [("A.md", "[a](geo:1,2)"), ("B.md", "[c](geo:3,4) [[A]]")]
  have hcheck : (Indexer.new .default).toOption.any (fun x =>
      (x.rebuild store'.notes ⟨"B.md"⟩).toOption.any fun built =>
        let r := (secondUpdate x store.notes store'.notes ⟨"B.md"⟩ built.1).2
        !built.1.isEmpty && (r.updated.map Layer.id == ["B.md3400", "A.md1200"] &&
          r.updated.all fun l =>
            !l.contestedBy ((firstIndex x store.notes).others ⟨"B.md"⟩))) = true := by
    decide +kernel
  obtain ⟨x, hx, hcheck⟩ := exists_of_any_toOption hcheck
  obtain ⟨⟨ls, ds⟩, hb, hcheck⟩ := exists_of_any_toOption hcheck
  dsimp only at hcheck
  obtain ⟨hne, hcheck⟩ := Bool.and_eq_true_iff.1 hcheck
  obtain ⟨hids, hfree⟩ := Bool.and_eq_true_iff.1 hcheck
  rw [Bool.not_eq_true', List.isEmpty_eq_false_iff] at hne
  obtain ⟨s, p, done, hreach, hp, hscope, hdone, hindex, heq⟩ :=
    exists_second_update hx store.notes hb hne
  rw [← heq] at hids hfree
  obtain ⟨hreports, -, hall⟩ := reports_after_update hreach hp hdone
  rw [hscope, UpdateScope.others_file, hindex] at hall hreports
  obtain ⟨hindexed, hnodup⟩ := hall fun l hl =>
    (Bool.not_eq_true' _).mp (List.all_eq_true.1 hfree l hl)
  refine ⟨s, p, done, hreach, hp, hdone, beq_iff_eq.1 hids, ?_, hindexed, hnodup⟩
  rwa [hscope, UpdateScope.others_file, hindex]

/-- Two notes of one name have the same place under different names. When the second one is indexed
again, its place is reported as the layer that takes the place of the one that is indexed, but the
first note's place stays. -/
theorem updated_not_indexed :
    ∃ (s : Session) (p : PendingUpdate) (done : Indexer.Applied),
      s.Reachable ∧ s.pending[0]? = some p ∧ s.indexer.apply p = .ok done ∧
        ∃ l ∈ done.reconciliation.updated, done.indexer.index.get? l.id ≠ some l := by
  let store := NoteStore.ofList [("A/X.md", "[x](geo:1,2)"), ("B/X.md", "[y](geo:1,2)")]
  have hcheck : (Indexer.new .default).toOption.any (fun x =>
      (x.rebuild store.notes ⟨"B/X.md"⟩).toOption.any fun built =>
        let after := secondUpdate x store.notes store.notes ⟨"B/X.md"⟩ built.1
        !built.1.isEmpty && after.2.updated.any
          fun l => (after.1.get? l.id).map Layer.name != some l.name) = true := by
    decide +kernel
  obtain ⟨x, hx, hcheck⟩ := exists_of_any_toOption hcheck
  obtain ⟨⟨ls, ds⟩, hb, hcheck⟩ := exists_of_any_toOption hcheck
  dsimp only at hcheck
  obtain ⟨hne, hcheck⟩ := Bool.and_eq_true_iff.1 hcheck
  rw [Bool.not_eq_true', List.isEmpty_eq_false_iff] at hne
  obtain ⟨s, p, done, hreach, hp, -, hdone, -, heq⟩ :=
    exists_second_update hx store.notes hb hne
  rw [← heq] at hcheck
  obtain ⟨l, hl, hname⟩ := List.any_eq_true.1 hcheck
  refine ⟨s, p, done, hreach, hp, hdone, l, hl, fun hg => ?_⟩
  rw [hg, Option.map_some] at hname
  exact absurd rfl (bne_iff_ne.1 hname)

end Session

end Gazetteer
