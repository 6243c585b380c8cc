import Gazetteer.Proofs.Indexer.Sources
import Gazetteer.Proofs.Query.Reading

/-!
# What queries find after everything was indexed

If no id is used twice, indexing everything leaves one layer for each layer that the notes have
(`Indexer.perm_layers_update_full`): this one, or the one that was indexed under its id if the two
have the same content. The latter may have other tags, which do not belong to the content, and may
come from another note with the same name. So queries find what they would find among the layers
that the notes have, if tags are taken from what is indexed.
-/

namespace Gazetteer

variable {notes : Notes} {b l : Layer} {q : Query}

/-- The tags of the layer that is indexed under an id. -/
def LayerIndex.tagsAt (i : LayerIndex) (id : String) : List String :=
  ((i.get? id).map Layer.tags).getD []

/-- The note that the layer indexed under an id comes from. -/
def LayerIndex.sourceAt? (i : LayerIndex) (id : String) : Option SourceRef :=
  (i.get? id).bind Layer.source?

namespace Indexer

variable {x : Indexer} {d : Applied}

/-- The layer that is indexed for one of the notes after everything was indexed. -/
def shown (x : Indexer) (d : Applied) (b : Layer) : Layer :=
  x.index.settle (d.indexer.graph.stamp b)

section Full

variable (h : x.update notes .full = .ok d) (hi : x.index.WF)

include hi in
theorem id_shown (b : Layer) : (x.shown d b).id = b.id := by
  rw [shown, hi.id_settle, LinkGraph.id_stamp]

/-- It is the layer of the note, or it was indexed before and has the same content. -/
theorem shown_cases (x : Indexer) (d : Applied) (b : Layer) :
    x.shown d b = d.indexer.graph.stamp b ∨
      x.index.get? b.id = some (x.shown d b) ∧
        (x.shown d b).sameContent false (d.indexer.graph.stamp b) = true := by
  have hcases := x.index.settle_cases (d.indexer.graph.stamp b)
  rwa [LinkGraph.id_stamp] at hcases

theorem looksLike_shown (x : Indexer) (d : Applied) (b : Layer) : (x.shown d b).LooksLike b := by
  have hstamp := Layer.looksLike_stamp d.indexer.graph b
  rcases shown_cases x d b with hs | ⟨-, hs⟩
  · rw [hs]
    exact hstamp
  · exact (Layer.looksLike_of_sameContent hs).trans hstamp

include h hi

theorem perm_layers_update_full (hn : ((x.layersIn notes).map Layer.id).Nodup) :
    d.indexer.index.layers.Perm ((x.layersIn notes).map (x.shown d)) := by
  have hids : ((x.layersIn notes).map d.indexer.graph.stamp).map Layer.id =
      (x.layersIn notes).map Layer.id := by
    rw [List.map_map]
    exact List.map_congr_left fun b _ => LinkGraph.id_stamp _ b
  have hdistinct : distinctLayers [] ((x.layersIn notes).map d.indexer.graph.stamp) =
      (x.layersIn notes).map d.indexer.graph.stamp := by
    refine distinctLayers_eq_self (fun c hc => ?_) (hids ▸ hn) fun _ _ => List.not_mem_nil
    obtain ⟨b, hb, rfl⟩ := List.mem_map.1 hc
    rw [LinkGraph.isFloating_stamp]
    exact isFloating_of_mem_layersIn hb
  have hperm := hi.perm_layers_toIndex_reconcile ((x.layersIn notes).map d.indexer.graph.stamp)
  rw [← index_update_full h, hdistinct, List.map_map] at hperm
  exact hperm

theorem get?_shown (hn : ((x.layersIn notes).map Layer.id).Nodup) (hb : b ∈ x.layersIn notes) :
    d.indexer.index.get? b.id = some (x.shown d b) := by
  have hmem := (perm_layers_update_full h hi hn).mem_iff.2 (List.mem_map_of_mem hb)
  rw [← id_shown hi (d := d) b]
  exact (wf_update hi h).mem_layers.1 hmem

/-- A query finds the layers for which the ones that are shown match. -/
theorem perm_ids_visible (hn : ((x.layersIn notes).map Layer.id).Nodup) (query : Option Query)
    {f : Layer → Bool}
    (hf : ∀ b ∈ x.layersIn notes,
      (query.getD d.indexer.defaultQuery).isMatch notes (x.shown d b) = f b) :
    ((d.indexer.visible notes query).map Layer.id).Perm
      (((x.layersIn notes).filter f).map Layer.id) := by
  have hperm := ((perm_layers_update_full h hi hn).filter fun l =>
    (query.getD d.indexer.defaultQuery).isMatch notes l).map Layer.id
  have hshown : ((x.layersIn notes).filter fun b =>
        (query.getD d.indexer.defaultQuery).isMatch notes (x.shown d b)) =
      (x.layersIn notes).filter f := List.filter_congr hf
  have hids : Layer.id ∘ x.shown d = Layer.id := funext (id_shown hi)
  rw [List.filter_map, List.map_map, hids] at hperm
  exact hshown ▸ hperm

end Full

end Indexer

namespace Session

variable {s : Session} {as : List Action}

/-- If no two notes of the history bore one name, a layer that is shown for a note is one of this
note. -/
theorem source?_shown {config : Config} {x : Indexer} (hx : Indexer.new config = .ok x)
    (happart : NamesApart (history notes as)) {d : Indexer.Applied}
    (hb : b ∈ ((start x notes).run as).indexer.layersIn ((start x notes).run as).notes) :
    (((start x notes).run as).indexer.shown d b).source? = b.source? := by
  obtain ⟨t, ht, hbt⟩ := Indexer.mem_sources_of_mem_layersIn hb
  have hstamp : (d.indexer.graph.stamp b).source? = some t := by
    rw [LinkGraph.source?_stamp, hbt]
  rcases Indexer.shown_cases ((start x notes).run as).indexer d b with hs | ⟨hold, hsame⟩
  · rw [hs, hstamp, hbt]
  · have hfrom := from_history hx notes as
    have hwf := ((Reachable.start hx notes).run as).consistent.counted.wf
    obtain ⟨source, hs⟩ := hwf.sourced hold
    obtain ⟨n, hn, hknows⟩ := hfrom.index _ _ _ hold hs
    obtain ⟨n', hn', hknows'⟩ := hfrom.notes t (Or.inl ht)
    have hname := Layer.name_eq_of_sameContent hsame hs hstamp
    rw [hs, hbt, happart n hn n' hn' source t hknows hknows' hname]

/-- **Queries find what the notes say, apart from tags that were kept.** Whatever was edited,
prepared and applied before, after everything was indexed a query finds layers of the notes that
there are, as long as these have distinct ids:

* the tags that are indexed for a layer are its own, or those of the layer that was indexed under
  its id before and has the same content, to which tags do not belong;
* the note that is indexed for a layer is its own if no two notes of the history bore one name;
* if that is so, or if a query does not ask for notes, it finds exactly the layers that it matches
  when each has the tags that are indexed for it. These are all layers that it matches if it does
  not ask for tags or if all tags that are indexed are those that the notes have. -/
theorem visible_after_full_update {config : Config} {x : Indexer}
    (hx : Indexer.new config = .ok x) (notes : Notes) (as : List Action) :
    let s := (start x notes).run as
    let fresh := s.indexer.layersIn s.notes
    ∃ done, s.indexer.update s.notes .full = .ok done ∧
      ((fresh.map Layer.id).Nodup →
        let i := done.indexer.index
        (∀ b ∈ fresh, i.tagsAt b.id = b.tags ∨
          ∃ old, s.indexer.index.get? b.id = some old ∧
            old.sameContent false (done.indexer.graph.stamp b) = true ∧
            i.tagsAt b.id = old.tags) ∧
        (NamesApart (history notes as) → ∀ b ∈ fresh, i.sourceAt? b.id = b.source?) ∧
        ∀ query : Option Query,
          let q := query.getD done.indexer.defaultQuery
          let found := (done.indexer.visible s.notes query).map Layer.id
          (q.Asks Query.Predicate.asksNote → ∀ b ∈ fresh, i.sourceAt? b.id = b.source?) →
            found.Perm ((fresh.filter fun b =>
              q.isMatch s.notes (b.withTags (i.tagsAt b.id))).map Layer.id) ∧
            (¬q.Asks Query.Predicate.asksTags ∨ (∀ b ∈ fresh, i.tagsAt b.id = b.tags) →
              found.Perm ((fresh.filter (q.isMatch s.notes)).map Layer.id))) := by
  intro s fresh
  have hwf : s.indexer.index.WF := ((Reachable.start hx notes).run as).consistent.counted.wf
  obtain ⟨done, hdone⟩ := Indexer.exists_update_eq_ok (Indexer.prepare_full s.indexer s.notes)
  refine ⟨done, hdone, fun hn => ?_⟩
  have hget : ∀ b ∈ fresh, done.indexer.index.get? b.id = some (s.indexer.shown done b) :=
    fun b hb => Indexer.get?_shown hdone hwf hn hb
  have htags : ∀ b ∈ fresh, done.indexer.index.tagsAt b.id = (s.indexer.shown done b).tags := by
    intro b hb
    rw [LayerIndex.tagsAt, hget b hb]
    rfl
  have hsource : ∀ b ∈ fresh,
      done.indexer.index.sourceAt? b.id = (s.indexer.shown done b).source? := by
    intro b hb
    rw [LayerIndex.sourceAt?, hget b hb]
    rfl
  refine ⟨fun b hb => ?_, fun happart b hb => ?_, fun query => ?_⟩
  · rw [htags b hb]
    rcases Indexer.shown_cases s.indexer done b with hs | ⟨hold, hsame⟩
    · rw [hs, LinkGraph.tags_stamp]
      exact Or.inl rfl
    · exact Or.inr ⟨_, hold, hsame, rfl⟩
  · rw [hsource b hb]
    exact source?_shown hx happart hb
  intro q found hnote
  have hlooks := fun b => Indexer.looksLike_shown s.indexer done b
  have hnotes : q.Asks Query.Predicate.asksNote → ∀ b ∈ fresh,
      (s.indexer.shown done b).source? = b.source? := fun hasks b hb =>
    (hsource b hb).symm.trans (hnote hasks b hb)
  constructor
  · refine Indexer.perm_ids_visible hdone hwf hn query fun b hb => ?_
    obtain ⟨t, -, hbt⟩ := Indexer.mem_sources_of_mem_layersIn hb
    have hlike := Layer.looksLike_withTags (done.indexer.index.tagsAt b.id) b
    refine Query.isMatch_congr_of_looksLike ((hlooks b).trans hlike.symm) (fun _ => ?_)
      fun hasks => ?_
    · rw [Layer.tags_withTags _ hbt, htags b hb]
    · rw [Layer.source?_withTags]
      exact hnotes hasks b hb
  · intro hexact
    refine Indexer.perm_ids_visible hdone hwf hn query fun b hb => ?_
    refine Query.isMatch_congr_of_looksLike (hlooks b) (fun hasks => ?_)
      fun hasks => hnotes hasks b hb
    rcases hexact with hno | hsame
    · exact absurd hasks hno
    · rw [← htags b hb, hsame b hb]

/-! ## A tag that changes -/

/-- What is indexed after other notes were indexed first. -/
theorem index_after_edit {config : Config} {x : Indexer} (hx : Indexer.new config = .ok x)
    (old new : Notes) :
    let s := (start x old).run [.prepare .full, .apply 0, .edit new]
    let ls := x.layersIn old
    let ls' := x.layersIn new
    s.notes = new ∧ s.indexer.layersIn new = ls' ∧
      ∀ done, s.indexer.update new .full = .ok done →
        done.indexer.index =
          ((LayerIndex.empty.reconcile
            (ls.map (LinkGraph.ofLinks old ls).stamp)).toIndex.reconcile
              (ls'.map (LinkGraph.ofLinks new ls').stamp)).toIndex := by
  intro s ls ls'
  obtain ⟨d, hd⟩ := Indexer.exists_update_eq_ok (Indexer.prepare_full x old)
  have hs : s = ⟨d.indexer, new, [], d.events⟩ :=
    congrArg (fun s => s.step (.edit new)) (run_update (s := start x old) rfl hd)
  rw [hs]
  refine ⟨rfl, Indexer.layersIn_update hd new, fun done hdone => ?_⟩
  rw [Indexer.index_update_full hdone, Indexer.stamp_graph_update_full hdone,
    Indexer.layersIn_update hd, Indexer.index_first_update_full hx hd]

/-- The tag of a place changes; a query for the name and the note finds the place. -/
theorem visible_after_full_update_new_tag :
    ∃ x q, Indexer.new .default = .ok x ∧ Query.compile "path:a AND NOT name:y" = .ok q ∧
      let old := NoteStore.ofList [("A.md", "[x](geo:1,2) tag:a")]
      let new := NoteStore.ofList [("A.md", "[x](geo:1,2) tag:b")]
      let s := (start x old.notes).run [.prepare .full, .apply 0, .edit new.notes]
      ∃ done, s.indexer.update s.notes .full = .ok done ∧
        ((done.indexer.visible s.notes (some q)).map Layer.id).Perm ["A.md1200"] := by
  let old := NoteStore.ofList [("A.md", "[x](geo:1,2) tag:a")]
  let new := NoteStore.ofList [("A.md", "[x](geo:1,2) tag:b")]
  let as : List Action := [.prepare .full, .apply 0, .edit new.notes]
  have hcheck : (Indexer.new .default).toOption.any (fun x =>
      (Query.compile "path:a AND NOT name:y").toOption.any fun q =>
        let fresh := x.layersIn new.notes
        !decide (q.Asks Query.Predicate.asksTags) && fresh.map Layer.id == ["A.md1200"] &&
          (fresh.filter (q.isMatch new.notes)).map Layer.id == ["A.md1200"]) = true := by
    decide +kernel
  obtain ⟨x, hx, hcheck⟩ := exists_of_any_toOption hcheck
  obtain ⟨q, hq, hcheck⟩ := exists_of_any_toOption hcheck
  rw [Bool.and_eq_true, Bool.and_eq_true, beq_iff_eq, beq_iff_eq, Bool.not_eq_true',
    decide_eq_false_iff_not] at hcheck
  obtain ⟨⟨hnotags, hids⟩, hwanted⟩ := hcheck
  obtain ⟨done, hdone, hfound⟩ := visible_after_full_update hx old.notes as
  obtain ⟨hnotes, hfresh, -⟩ := index_after_edit hx old.notes new.notes
  rw [hnotes, hfresh] at hfound
  have hnodup : ((x.layersIn new.notes).map Layer.id).Nodup := by
    rw [hids]
    exact List.nodup_singleton _
  obtain ⟨-, happart, hquery⟩ := hfound hnodup
  have hsources : old.notes.sources = [⟨"A.md"⟩] ∧ new.notes.sources = [⟨"A.md"⟩] := by
    decide +kernel
  have hnames : NamesApart (history old.notes as) := by
    refine namesApart_of_forall_mem [⟨"A.md"⟩] ?_ (List.nodup_singleton _)
    intro n hn source hknows
    rcases List.mem_cons.1 hn with rfl | hn
    · exact hsources.1 ▸ NoteStore.knows_iff.1 hknows
    · rw [List.mem_singleton.1 hn] at hknows
      exact hsources.2 ▸ NoteStore.knows_iff.1 hknows
  refine ⟨x, q, hx, hq, done, hdone, ?_⟩
  have hperm := ((hquery (some q)) fun _ => happart hnames).2 (Or.inl hnotags)
  rw [Option.getD_some, hwanted] at hperm
  rwa [hnotes]

/-- A query for the new tag does not find it: the layer of the old text has the same content, and
stays. -/
theorem new_tag_not_found :
    ∃ x q, Indexer.new .default = .ok x ∧ Query.compile "tag:#b" = .ok q ∧
      let old := NoteStore.ofList [("A.md", "[x](geo:1,2) tag:a")]
      let new := NoteStore.ofList [("A.md", "[x](geo:1,2) tag:b")]
      let s := (start x old.notes).run [.prepare .full, .apply 0, .edit new.notes]
      let fresh := s.indexer.layersIn s.notes
      (fresh.map Layer.id).Nodup ∧
      (fresh.filter (q.isMatch s.notes)).map Layer.id = ["A.md1200"] ∧
      ∃ done, s.indexer.update s.notes .full = .ok done ∧
        done.indexer.visible s.notes (some q) = [] := by
  let old := (NoteStore.ofList [("A.md", "[x](geo:1,2) tag:a")]).notes
  let new := (NoteStore.ofList [("A.md", "[x](geo:1,2) tag:b")]).notes
  have hcheck : (Indexer.new .default).toOption.any (fun x =>
      (Query.compile "tag:#b").toOption.any fun q =>
        let ls := x.layersIn old
        let ls' := x.layersIn new
        let i := (LayerIndex.empty.reconcile (ls.map (LinkGraph.ofLinks old ls).stamp)).toIndex
        let i' := (i.reconcile (ls'.map (LinkGraph.ofLinks new ls').stamp)).toIndex
        ls'.map Layer.id == ["A.md1200"] &&
          (ls'.filter (q.isMatch new)).map Layer.id == ["A.md1200"] &&
            (i'.layers.filter (q.isMatch new)).isEmpty) = true := by
    decide +kernel
  obtain ⟨x, hx, hcheck⟩ := exists_of_any_toOption hcheck
  obtain ⟨q, hq, hcheck⟩ := exists_of_any_toOption hcheck
  rw [Bool.and_eq_true, Bool.and_eq_true, beq_iff_eq, beq_iff_eq] at hcheck
  obtain ⟨⟨hids, hmatch⟩, hempty⟩ := hcheck
  refine ⟨x, q, hx, hq, ?_⟩
  intro old' new' s fresh
  obtain ⟨done, hdone⟩ := Indexer.exists_update_eq_ok (Indexer.prepare_full s.indexer s.notes)
  obtain ⟨hnotes, hfresh, hindex⟩ := index_after_edit hx old new
  have hfresh' : fresh = x.layersIn new := by
    show s.indexer.layersIn s.notes = _
    rw [hnotes]
    exact hfresh
  rw [hnotes] at hdone
  refine ⟨?_, ?_, done, ?_, ?_⟩
  · rw [hfresh', hids]
    exact List.nodup_singleton _
  · rw [hfresh', hnotes]
    exact hmatch
  · rw [hnotes]
    exact hdone
  · unfold Indexer.visible
    rw [hindex done hdone, hnotes]
    exact List.isEmpty_iff.1 hempty

end Session

end Gazetteer
