import Gazetteer.Proofs.Indexer.AllNotes
import Gazetteer.Proofs.Indexer.Consistency

/-!
# What holds of every layer

An indexed layer is one of the layers that some file had when an update was prepared, with a number
of relations that may have changed since. So a property that does not ask for this number
(`Layer.Lasting`) holds of every indexed layer as soon as it holds of the layers of all files of all
notes that there are in the course of a session (`Session.All.run`). What waits to be applied has to
be part of the invariant.
-/

namespace Gazetteer

variable {P : Layer → Prop} {notes : Notes} {i : LayerIndex}

/-- A property of layers that does not depend on numbers of relations. -/
def Layer.Lasting (P : Layer → Prop) : Prop :=
  ∀ (g : LinkGraph) (l : Layer), P l → P (g.stamp l)

/-- All layers of files have a property, whatever the settings are. -/
def Notes.Yield (notes : Notes) (P : Layer → Prop) : Prop :=
  ∀ (x : Indexer) (source : SourceRef) (ls : List Layer) (ds : List DroppedFact),
    x.buildIndexed notes source = .ok (ls, ds) → ∀ l ∈ ls, P l

/-- All indexed layers have a property. -/
def LayerIndex.All (i : LayerIndex) (P : Layer → Prop) : Prop :=
  ∀ id l, i.get? id = some l → P l

/-- All layers that an update brings have a property. -/
def PendingUpdate.All (p : PendingUpdate) (P : Layer → Prop) : Prop :=
  ∀ next, p.next = some next → ∀ c ∈ next.candidates, P c

theorem NextState.all_candidates (hP : Layer.Lasting P) {others ls : List Layer}
    (hls : ∀ b ∈ ls, P b) : ∀ c ∈ (NextState.beside notes others ls).candidates, P c := by
  intro c hc
  obtain ⟨b, hb, rfl⟩ := List.mem_map.1 hc
  exact hP _ b (hls b hb)

namespace Indexer

variable {x : Indexer} {scope : UpdateScope} {next : NextState} {p : PendingUpdate}

theorem all_prepare (hP : Layer.Lasting P) (hn : notes.Yield P)
    (h : (x.prepare notes scope).2 = .ok p) : p.All P := by
  intro next hnext
  obtain ⟨ls, rfl, hls⟩ := next_of_prepare h hnext
  refine NextState.all_candidates hP fun b hb => ?_
  cases scope with
  | full =>
    rw [hls] at hb
    obtain ⟨t, -, ls, ds, hok, hb⟩ := mem_layersIn_iff.1 hb
    exact hn _ t ls ds hok b hb
  | file t =>
    obtain ⟨ds, hbuilt⟩ := hls
    obtain ⟨ls', ds', hok, hb⟩ := (mem_rebuild_iff hbuilt).1 hb
    exact hn _ t ls' ds' hok b hb
  | removal t =>
    rw [hls] at hb
    cases hb

/-- An update leaves indexed layers and candidates. -/
theorem all_reconcileNext (hP : Layer.Lasting P) (h : i.WF) (hf : next.Fits scope i)
    (hi : i.All P) (hc : ∀ c ∈ next.candidates, P c) :
    (reconcileNext i scope next).1.All P := by
  intro id l hg
  rcases (get?_reconcileNext h hf).1 hg with ⟨old, hold, -, rfl⟩ | ⟨-, c, hmem, -, rfl⟩
  · refine hP _ old ?_
    cases scope with
    | full => cases hold
    | file t => exact hi _ _ (h.mem_others.1 hold).1
    | removal t => exact hi _ _ (h.mem_others.1 hold).1
  · rcases i.settle_cases c with hsame | ⟨hg', -⟩
    · rw [hsame]
      exact hc c (mem_of_mem_distinctLayers hmem)
    · exact hi _ _ hg'

theorem all_apply (hP : Layer.Lasting P) {done : Applied} (h : x.index.WF)
    (hb : p.BuiltOn x.index) (hi : x.index.All P) (hp : p.All P) (ha : x.apply p = .ok done) :
    done.indexer.index.All P := by
  rcases cases_of_apply_of_builtOn hb ha with ⟨-, rfl⟩ | ⟨next, notes, ls, hn, hnext, hls, rfl⟩
  · exact hi
  · exact all_reconcileNext hP h (hnext ▸ NextState.fits_beside x.index notes hls) hi (hp next hn)

end Indexer

/-! ## Sessions -/

/-- The notes that an action puts in the place of those there were. -/
def Action.notes? : Action → Option Notes
  | .edit notes => some notes
  | _ => none

namespace Session

variable {s : Session} {as : List Action}

/-- All layers of notes, all indexed ones and all that wait to be have a property. -/
structure All (s : Session) (P : Layer → Prop) : Prop where
  notes : s.notes.Yield P
  index : s.indexer.index.All P
  pending : ∀ p ∈ s.pending, p.All P

theorem all_start {config : Config} {x : Indexer} (hx : Indexer.new config = .ok x)
    (hn : notes.Yield P) : (start x notes).All P where
  notes := hn
  index id l hg := by
    rw [show (start x notes).indexer.index = .empty from (Indexer.new_eq_ok hx).1,
      LayerIndex.get?_empty] at hg
    cases hg
  pending _ hp := nomatch hp

theorem notes_step (s : Session) (a : Action) : (s.step a).notes = a.notes?.getD s.notes := by
  cases a with
  | edit notes => rfl
  | prepare scope =>
    obtain ⟨p, -, h⟩ | h := s.step_prepare_cases scope <;> rw [h] <;> rfl
  | apply k => obtain h | ⟨p, -, ⟨-, h⟩ | ⟨done, -, h⟩⟩ := s.step_apply_cases k <;> rw [h] <;> rfl

/-- The notes after a session are the first ones, or an action put them there. -/
theorem notes_run (s : Session) (as : List Action) :
    (s.run as).notes = s.notes ∨ (s.run as).notes ∈ as.filterMap Action.notes? := by
  induction as generalizing s with
  | nil => exact Or.inl rfl
  | cons a as ih =>
    have hstep := s.notes_step a
    rw [List.filterMap_cons]
    cases ha : a.notes? with
    | none =>
      rw [ha, Option.getD_none] at hstep
      exact hstep ▸ ih (s.step a)
    | some notes =>
      rw [ha, Option.getD_some] at hstep
      rcases ih (s.step a) with h | h
      · exact Or.inr (List.mem_cons.2 (Or.inl (h.trans hstep)))
      · exact Or.inr (List.mem_cons_of_mem _ h)

theorem All.step (hP : Layer.Lasting P) (h : s.All P) (hs : s.Consistent) {a : Action}
    (ha : ∀ notes, a.notes? = some notes → notes.Yield P) : (s.step a).All P := by
  cases a with
  | edit notes => exact ⟨ha notes rfl, h.index, h.pending⟩
  | prepare scope =>
    obtain ⟨p, hp, hstep⟩ | hstep := s.step_prepare_cases scope
    · rw [hstep]
      refine ⟨h.notes, h.index, fun q hq => ?_⟩
      rcases List.mem_append.1 hq with hq | hq
      · exact h.pending q hq
      · rw [List.mem_singleton.1 hq]
        exact Indexer.all_prepare hP h.notes hp
    · rw [hstep]
      exact ⟨h.notes, h.index, h.pending⟩
  | apply k =>
    have hrest : (s.pending.eraseIdx k).Sublist s.pending := List.eraseIdx_sublist ..
    obtain hstep | ⟨p, hk, ⟨-, hstep⟩ | ⟨done, hdone, hstep⟩⟩ := s.step_apply_cases k
    · rwa [hstep]
    · rw [hstep]
      exact ⟨h.notes, h.index, fun q hq => h.pending q (hrest.subset hq)⟩
    · have hmem := List.mem_of_getElem? hk
      have hbuilt := hs.built p hmem (Indexer.apply_isOk_iff.1 ⟨done, hdone⟩)
      rw [hstep]
      exact ⟨h.notes, Indexer.all_apply hP hs.counted.wf hbuilt h.index (h.pending p hmem) hdone,
        fun q hq => h.pending q (hrest.subset hq)⟩

theorem All.run (hP : Layer.Lasting P) (h : s.All P) (hs : s.Consistent)
    (has : ∀ n ∈ as.filterMap Action.notes?, n.Yield P) : (s.run as).All P := by
  induction as generalizing s with
  | nil => exact h
  | cons a as ih =>
    refine ih (h.step hP hs fun n hn => has n ?_) (hs.step a) fun n hn => has n ?_
    · exact List.mem_filterMap.2 ⟨a, List.mem_cons_self, hn⟩
    · obtain ⟨a', ha', hn'⟩ := List.mem_filterMap.1 hn
      exact List.mem_filterMap.2 ⟨a', List.mem_cons_of_mem _ ha', hn'⟩

/-- What holds of the layers of whatever notes holds of all indexed layers at all times. -/
theorem Reachable.all (hP : Layer.Lasting P) (hn : ∀ notes : Notes, notes.Yield P)
    (h : s.Reachable) : s.All P := by
  induction h with
  | start hx notes => exact all_start hx (hn notes)
  | step h a ih => exact ih.step hP h.consistent fun notes _ => hn notes

end Session

end Gazetteer
