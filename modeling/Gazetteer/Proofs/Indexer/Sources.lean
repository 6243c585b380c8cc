import Gazetteer.Proofs.Indexer.Invariant
import Gazetteer.Proofs.Layer.Content

/-!
# Where indexed layers come from

Layers come into an index as candidates of updates, and candidates are made of notes that were read,
so every indexed layer comes from a note that there was at some time (`LayerIndex.From`). Indexing
everything leaves a layer for each layer that the notes have now: the new one, or the one that was
indexed under its id if that says the same. As saying the same compares file names and not paths,
the layer that is left may come from another note, which bore the same name in another folder and
need not be there any more. It comes from a note that there is if no two notes in the history had
one name.
-/

namespace Gazetteer

variable {known : SourceRef → Prop} {notes : Notes} {source : SourceRef} {i : LayerIndex}
  {l : Layer} {id : String}

/-! ## Notes that there are -/

/-- There is a note at a path, or one can be read. -/
def Notes.Knows (notes : Notes) (source : SourceRef) : Prop :=
  source ∈ notes.sources ∨ ∃ note, notes.read source = .ok note

theorem NoteStore.knows_iff {s : NoteStore} : s.notes.Knows source ↔ source ∈ s.notes.sources := by
  refine ⟨fun h => h.elim id fun ⟨note, hr⟩ => mem_sources_iff.2 ?_, Or.inl⟩
  simp only [notes] at hr
  unfold contains SortedMap.contains
  cases hg : s.byPath.get? source.path with
  | none =>
    rw [hg] at hr
    cases hr
  | some note => rfl

/-- No two notes, of one or of several collections, have one name at two paths. -/
def NamesApart (history : List Notes) : Prop :=
  ∀ n ∈ history, ∀ n' ∈ history, ∀ source t : SourceRef,
    n.Knows source → n'.Knows t → source.name = t.name → source = t

theorem namesApart_of_forall_mem {history : List Notes} (sources : List SourceRef)
    (h : ∀ n ∈ history, ∀ source, n.Knows source → source ∈ sources)
    (hn : (sources.map SourceRef.name).Nodup) : NamesApart history :=
  fun n hmem n' hmem' source t hs ht hname =>
    List.inj_on_of_nodup_map hn (h n hmem source hs) (h n' hmem' t ht) hname

/-! ## Layers of known notes -/

/-- All layers of an index come from some notes. -/
def LayerIndex.From (i : LayerIndex) (known : SourceRef → Prop) : Prop :=
  ∀ id l source, i.get? id = some l → l.source? = some source → known source

/-- All layers that an update brings come from some notes. -/
def PendingUpdate.From (p : PendingUpdate) (known : SourceRef → Prop) : Prop :=
  ∀ next, p.next = some next → ∀ c ∈ next.candidates, ∀ source, c.source? = some source →
    known source

/-- A layer comes from a known note. -/
def Layer.From (l : Layer) (known : SourceRef → Prop) : Prop :=
  ∀ source, l.source? = some source → known source

theorem Layer.lasting_from : Layer.Lasting (·.From known) := by
  intro g l h source hs
  rw [LinkGraph.source?_stamp] at hs
  exact h source hs

/-- The layers of files come from files that can be read. -/
theorem Notes.yield_from (h : ∀ source, notes.Knows source → known source) :
    notes.Yield (·.From known) := by
  intro x t ls ds hok l hl source hs
  rw [Indexer.source?_of_mem_buildIndexed hok hl, Option.some.injEq] at hs
  exact hs ▸ h t (Or.inr (Indexer.exists_read_of_mem_buildIndexed hok hl))

namespace Indexer

variable {x : Indexer}

/-- What is indexed after everything was indexed is a layer of a note that there is, or was indexed
before for a note with the same name and says the same. -/
theorem exists_source_update_full {d : Applied} (hi : x.index.WF)
    (h : x.update notes .full = .ok d) (hl : l ∈ d.indexer.index.layers) :
    ∃ t ∈ notes.sources, ∃ b ∈ x.layersIn notes, b.source? = some t ∧ b.id = l.id ∧
      (l.source? = some t ∨
        l ∈ x.index.layers ∧ l.sameContent false (d.indexer.graph.stamp b) = true ∧
          ∃ source, l.source? = some source ∧ source.name = t.name) := by
  obtain ⟨b, hb, hid, hcase⟩ := get?_update_full h hi ((wf_update hi h).mem_layers.1 hl)
  obtain ⟨t, ht, hbt⟩ := mem_sources_of_mem_layersIn hb
  have hstamp : (d.indexer.graph.stamp b).source? = some t := by
    rw [LinkGraph.source?_stamp, hbt]
  refine ⟨t, ht, b, hb, hbt, hid, ?_⟩
  rcases hcase with rfl | ⟨hold, hsame⟩
  · exact Or.inl hstamp
  · obtain ⟨source, hs⟩ := hi.sourced hold
    exact Or.inr ⟨hi.mem_layers.2 hold, hsame, source, hs,
      Layer.name_eq_of_sameContent hsame hs hstamp⟩

end Indexer

/-! ## Sessions -/

namespace Session

variable {s : Session} {as : List Action}

/-- The notes that there are in the course of a session, the first ones first. -/
def history (notes : Notes) (as : List Action) : List Notes :=
  notes :: as.filterMap Action.notes?

/-- All layers that are indexed or wait to be come from some notes. -/
structure From (s : Session) (known : SourceRef → Prop) : Prop where
  notes : ∀ source, s.notes.Knows source → known source
  index : s.indexer.index.From known
  pending : ∀ p ∈ s.pending, p.From known

theorem From.all (h : s.From known) : s.All (·.From known) where
  notes := Notes.yield_from h.notes
  index id l hg source hs := h.index id l source hg hs
  pending p hp next hn c hc source hs := h.pending p hp next hn c hc source hs

theorem from_of_all (hn : ∀ source, s.notes.Knows source → known source)
    (h : s.All (·.From known)) : s.From known where
  notes := hn
  index id l source hg hs := h.index id l hg source hs
  pending p hp next hn c hc source hs := h.pending p hp next hn c hc source hs

theorem from_start {config : Config} {x : Indexer} (hx : Indexer.new config = .ok x)
    (h : ∀ source, notes.Knows source → known source) : (start x notes).From known :=
  from_of_all h (all_start hx (Notes.yield_from h))

theorem From.run (h : s.From known) (hs : s.Consistent)
    (has : ∀ n ∈ as.filterMap Action.notes?, ∀ source, n.Knows source → known source) :
    (s.run as).From known := by
  refine from_of_all ?_ (h.all.run Layer.lasting_from hs fun n hn => Notes.yield_from (has n hn))
  rcases s.notes_run as with hnotes | hnotes
  · rw [hnotes]
    exact h.notes
  · exact has _ hnotes

/-- Every layer of a session comes from a note that there was at some time. -/
theorem from_history {config : Config} {x : Indexer} (hx : Indexer.new config = .ok x)
    (notes : Notes) (as : List Action) :
    ((start x notes).run as).From fun source => ∃ n ∈ history notes as, n.Knows source :=
  (from_start hx fun _ h => ⟨notes, List.mem_cons_self, h⟩).run (consistent_start hx notes)
    fun n hn _ h => ⟨n, List.mem_cons_of_mem _ hn, h⟩

/-- **Where layers come from when everything was indexed.** Whatever was edited, prepared and
applied before, indexing everything succeeds, and what is indexed afterwards under an id is a layer
of one of the notes that there are; or it was indexed under this id before, for a note with the same
name, and says the same as a layer that such a note has now. So all indexed layers come from notes
that there are, unless two notes bore one name in different folders, now or at different times. -/
theorem sources_after_full_update {config : Config} {x : Indexer}
    (hx : Indexer.new config = .ok x) (notes : Notes) (as : List Action) :
    let s := (start x notes).run as
    ∃ done, s.indexer.update s.notes .full = .ok done ∧
      (∀ l ∈ done.indexer.index.layers, ∃ t ∈ s.notes.sources, ∃ b ∈ s.indexer.layersIn s.notes,
        b.source? = some t ∧ b.id = l.id ∧
          (l.source? = some t ∨
            l ∈ s.indexer.index.layers ∧ l.sameContent false (done.indexer.graph.stamp b) = true ∧
              ∃ source, l.source? = some source ∧ source.name = t.name)) ∧
      (NamesApart (history notes as) →
        ∀ l ∈ done.indexer.index.layers, ∃ t ∈ s.notes.sources, l.source? = some t) := by
  intro s
  have hcons : s.Consistent := ((Reachable.start hx notes).run as).consistent
  have hwf := hcons.counted.wf
  obtain ⟨done, hdone⟩ := Indexer.exists_update_eq_ok (Indexer.prepare_full s.indexer s.notes)
  have hlayers := fun l => Indexer.exists_source_update_full (l := l) hwf hdone
  refine ⟨done, hdone, hlayers, fun happart l hl => ?_⟩
  obtain ⟨t, ht, -, -, -, -, hs | ⟨hold, -, source, hs, hname⟩⟩ := hlayers l hl
  · exact ⟨t, ht, hs⟩
  · -- The note that the layer comes from and the one that there is are one note.
    have hfrom := from_history hx notes as
    obtain ⟨n, hn, hknows⟩ := hfrom.index _ _ _ (hwf.mem_layers.1 hold) hs
    obtain ⟨n', hn', hknows'⟩ := hfrom.notes t (Or.inl ht)
    exact ⟨t, ht, happart n hn n' hn' source t hknows hknows' hname ▸ hs⟩

/-- A note with a place moves to another folder and gets another name. -/
theorem sources_after_full_update_renamed :
    ∃ x, Indexer.new .default = .ok x ∧
      let store := NoteStore.ofList [("A/X.md", "[x](geo:1,2)")]
      let moved := NoteStore.ofList [("B/Y.md", "[x](geo:1,2)")]
      let s := (start x store.notes).run [.prepare .full, .apply 0, .edit moved.notes]
      ∃ done, s.indexer.update s.notes .full = .ok done ∧
        ∀ l ∈ done.indexer.index.layers, ∃ t ∈ s.notes.sources, l.source? = some t := by
  have hnew : (Indexer.new .default).isOk = true := by decide +kernel
  cases hx : Indexer.new .default with
  | error e =>
    rw [hx] at hnew
    cases hnew
  | ok x =>
    refine ⟨x, rfl, ?_⟩
    intro store moved s
    obtain ⟨done, hdone, -, hlive⟩ := sources_after_full_update hx store.notes
      [.prepare .full, .apply 0, .edit moved.notes]
    refine ⟨done, hdone, hlive ?_⟩
    have hstore : store.notes.sources = [⟨"A/X.md"⟩] := by decide +kernel
    have hmoved : moved.notes.sources = [⟨"B/Y.md"⟩] := by decide +kernel
    have hsources : ∀ n ∈ history store.notes [.prepare .full, .apply 0, .edit moved.notes],
        ∀ source, n.Knows source → source = ⟨"A/X.md"⟩ ∨ source = ⟨"B/Y.md"⟩ := by
      intro n hn source hknows
      rcases List.mem_cons.1 hn with rfl | hn
      · rw [NoteStore.knows_iff, hstore, List.mem_singleton] at hknows
        exact Or.inl hknows
      · rw [List.mem_singleton.1 hn, NoteStore.knows_iff, hmoved, List.mem_singleton] at hknows
        exact Or.inr hknows
    intro n hn n' hn' source t hs ht hname
    rcases hsources n hn source hs with rfl | rfl <;> rcases hsources n' hn' t ht with rfl | rfl
    · rfl
    · exact absurd hname (by decide +kernel)
    · exact absurd hname (by decide +kernel)
    · rfl

/-- A note with a place moves to another folder under its name: the layer of the place stays the one
of the note that there was. -/
theorem source_gone_after_move :
    ∃ x, Indexer.new .default = .ok x ∧
      let store := NoteStore.ofList [("A/X.md", "[x](geo:1,2)")]
      let moved := NoteStore.ofList [("B/X.md", "[x](geo:1,2)")]
      let s := (start x store.notes).run [.prepare .full, .apply 0, .edit moved.notes]
      ∃ done, s.indexer.update s.notes .full = .ok done ∧
        ∃ l ∈ done.indexer.index.layers,
          l.source? = some ⟨"A/X.md"⟩ ∧ ⟨"A/X.md"⟩ ∉ s.notes.sources := by
  have hcheck : (Indexer.new .default).toOption.any (fun x =>
      let store := (NoteStore.ofList [("A/X.md", "[x](geo:1,2)")]).notes
      let moved := (NoteStore.ofList [("B/X.md", "[x](geo:1,2)")]).notes
      let ls := x.layersIn store
      let ls' := x.layersIn moved
      let i := (LayerIndex.empty.reconcile (ls.map (LinkGraph.ofLinks store ls).stamp)).toIndex
      let i' := (i.reconcile (ls'.map (LinkGraph.ofLinks moved ls').stamp)).toIndex
      i'.layers.any fun l => l.source? == some ⟨"A/X.md"⟩) = true := by
    decide +kernel
  obtain ⟨x, hx, hcheck⟩ := exists_of_any_toOption hcheck
  refine ⟨x, hx, ?_⟩
  intro store moved s
  have hgone : ⟨"A/X.md"⟩ ∉ moved.notes.sources := by decide +kernel
  obtain ⟨d, hd⟩ := Indexer.exists_update_eq_ok (Indexer.prepare_full x store.notes)
  have hs : s = ⟨d.indexer, moved.notes, [], d.events⟩ :=
    congrArg (fun s => s.step (.edit moved.notes)) (run_update (s := start x store.notes) rfl hd)
  obtain ⟨done, hdone⟩ :=
    Indexer.exists_update_eq_ok (Indexer.prepare_full d.indexer moved.notes)
  rw [hs]
  refine ⟨done, hdone, ?_⟩
  rw [Indexer.index_update_full hdone, Indexer.stamp_graph_update_full hdone,
    Indexer.layersIn_update hd, Indexer.index_first_update_full hx hd]
  obtain ⟨l, hl, hsource⟩ := List.any_eq_true.1 hcheck
  exact ⟨l, hl, beq_iff_eq.1 hsource, hgone⟩

end Session

end Gazetteer
