import Gazetteer.Proofs.Data.Lists
import Gazetteer.Proofs.Data.SortedMap
import Gazetteer.Proofs.Index.Reconciliation
import Gazetteer.Proofs.Layer.Building
import Gazetteer.Proofs.Link.Relation

/-!
# The layers of all notes

What indexing everything reads from a collection of notes, note by note, and what of it stays when
one note changes that had no layers and has none (`layersIn_of_changedAt`): the layers of all notes,
in their order, if display rules do not ask about links; and the relations between them, if links
lead from notes with markers to the same notes with markers (`Notes.KeepsLinks`).
-/

namespace Gazetteer

variable {notes notes' : Notes} {source : SourceRef} {x : Indexer} {b : Layer} {ls : List Layer}

namespace Indexer

/-! ## Note by note -/

/-- The layers of a file, none if it cannot be read. -/
def builtLayers (x : Indexer) (notes : Notes) (source : SourceRef) : List Layer :=
  match x.buildIndexed notes source with
  | .ok (ls, _) => ls
  | .error _ => []

theorem mem_builtLayers_iff :
    b ∈ x.builtLayers notes source ↔
      ∃ ls ds, x.buildIndexed notes source = .ok (ls, ds) ∧ b ∈ ls := by
  unfold builtLayers
  cases x.buildIndexed notes source with
  | error e => simp
  | ok built => simp [Prod.ext_iff]

theorem source?_of_mem_builtLayers (h : b ∈ x.builtLayers notes source) :
    b.source? = some source := by
  obtain ⟨ls, ds, hok, hb⟩ := mem_builtLayers_iff.1 h
  exact source?_of_mem_buildIndexed hok hb

theorem layersIn_eq_flatMap (x : Indexer) (notes : Notes) :
    x.layersIn notes = notes.sources.flatMap (x.builtLayers notes) := by
  unfold layersIn buildAll
  induction notes.sources with
  | nil => rfl
  | cons source sources ih =>
    rw [List.flatMap_cons, ← ih]
    cases hbuilt : x.buildIndexed notes source with
    | error e => simp [builtLayers, hbuilt, Except.toOption]
    | ok built => simp [builtLayers, hbuilt, Except.toOption]

theorem mem_layersIn_iff :
    b ∈ x.layersIn notes ↔
      ∃ t ∈ notes.sources, ∃ ls ds, x.buildIndexed notes t = .ok (ls, ds) ∧ b ∈ ls := by
  simp only [layersIn_eq_flatMap, List.mem_flatMap, mem_builtLayers_iff]

theorem mem_sources_of_mem_layersIn (h : b ∈ x.layersIn notes) :
    ∃ t ∈ notes.sources, b.source? = some t := by
  obtain ⟨t, ht, ls, ds, hok, hb⟩ := mem_layersIn_iff.1 h
  exact ⟨t, ht, source?_of_mem_buildIndexed hok hb⟩

theorem isFloating_of_mem_layersIn (h : b ∈ x.layersIn notes) : b.isFloating = false := by
  obtain ⟨t, -, hs⟩ := mem_sources_of_mem_layersIn h
  exact Layer.isFloating_eq_false_iff.2 ⟨t, hs⟩

theorem mem_rebuild_iff {ds : List DroppedFact} (h : x.rebuild notes source = .ok (ls, ds)) :
    b ∈ ls ↔ ∃ ls ds, x.buildIndexed notes source = .ok (ls, ds) ∧ b ∈ ls := by
  unfold rebuild at h
  split at h
  · rename_i hno
    cases h
    simp [hno]
  · rw [h]
    refine ⟨fun hb => ⟨ls, ds, rfl, hb⟩, ?_⟩
    rintro ⟨ls', ds', he, hb⟩
    cases he
    exact hb

/-- The layers of a note that was read again are those that it has among the layers of all notes. -/
theorem mem_layersIn_of_rebuild {ds : List DroppedFact} (hmem : source ∈ notes.sources)
    (h : x.rebuild notes source = .ok (ls, ds)) :
    b ∈ ls ↔ b ∈ x.layersIn notes ∧ b.source? = some source := by
  rw [mem_rebuild_iff h, mem_layersIn_iff]
  constructor
  · rintro ⟨ls, ds, hok, hb⟩
    exact ⟨⟨source, hmem, ls, ds, hok, hb⟩, source?_of_mem_buildIndexed hok hb⟩
  · rintro ⟨⟨t, -, ls, ds, hok, hb⟩, hs⟩
    rw [source?_of_mem_buildIndexed hok hb, Option.some.injEq] at hs
    rw [hs] at hok
    exact ⟨ls, ds, hok, hb⟩

end Indexer

/-! ## One note changes -/

/-- The notes are the same but for one of them, which may have appeared, changed or gone. -/
structure Notes.ChangedAt (notes notes' : Notes) (source : SourceRef) : Prop where
  sources : notes'.sources.filter (· != source) = notes.sources.filter (· != source)
  read : ∀ t, t ≠ source → notes'.read t = notes.read t

/-- Links lead from notes with markers to the same notes with markers, for the markers among some
layers. -/
def Notes.KeepsLinks (notes notes' : Notes) (ls : List Layer) : Prop :=
  ∀ m m', .marker m ∈ ls → .marker m' ∈ ls →
    ∀ o, notes.outline? m.info.source = some o → ∀ l ∈ o.allLinks,
      (notes.resolve l.link m.info.source = some m'.info.source ↔
        notes'.resolve l.link m.info.source = some m'.info.source)

/-- As long as link texts name the same notes, all links lead where they led. -/
theorem Notes.keepsLinks_of_resolve_eq (h : notes.resolve = notes'.resolve) (ls : List Layer) :
    notes.KeepsLinks notes' ls := by
  intro m m' _ _ o _ l _
  rw [h]

namespace NoteStore

variable {s s' : NoteStore} {text : String}

/-- Putting another text at a path changes which notes there are only if there was none. -/
theorem sources_put (h : s.contains source = true) :
    (s.put source text).notes.sources = s.notes.sources := by
  have hkeys : (s.byPath.insert source.path (Note.ofText text)).keys = s.byPath.keys := by
    refine SortedMap.keys_congr fun path => ?_
    unfold SortedMap.contains
    rw [SortedMap.get?_insert]
    split
    · rename_i hp
      rw [hp]
      exact h.symm
    · rfl
  exact congrArg (List.map SourceRef.mk) hkeys

/-- So link texts name the same notes. -/
theorem resolve_put (h : s.contains source = true) :
    (s.put source text).notes.resolve = s.notes.resolve :=
  congrArg resolveLink (sources_put h)

theorem filter_sources_ne (s : NoteStore) (source : SourceRef) :
    s.notes.sources.filter (· != source) =
      (s.byPath.filter fun path _ => path != source.path).keys.map SourceRef.mk := by
  rw [SortedMap.keys_filter]
  show (s.byPath.keys.map SourceRef.mk).filter (· != source) = _
  rw [List.filter_map]
  refine congrArg (List.map SourceRef.mk) (List.filter_congr fun path _ => ?_)
  cases source
  simp [bne]

theorem changedAt_of_get?
    (h : ∀ path, path ≠ source.path → s'.byPath.get? path = s.byPath.get? path) :
    s.notes.ChangedAt s'.notes source where
  sources := by
    rw [filter_sources_ne, filter_sources_ne]
    refine congrArg (List.map SourceRef.mk) (SortedMap.keys_congr fun path => ?_)
    unfold SortedMap.contains
    rw [SortedMap.get?_filter, SortedMap.get?_filter]
    by_cases hp : path = source.path
    · simp [hp]
    · rw [h path hp]
  read t ht := by
    have hpath : t.path ≠ source.path := fun he => ht (congrArg SourceRef.mk he)
    simp only [notes, h t.path hpath]

theorem changedAt_put (s : NoteStore) (source : SourceRef) (text : String) :
    s.notes.ChangedAt (s.put source text).notes source :=
  changedAt_of_get? fun _ hp => by rw [put, SortedMap.get?_insert, if_neg hp]

end NoteStore

namespace Indexer

/-- The layers of all notes are those of the other notes if a note has none. -/
theorem layersIn_eq_flatMap_filter (hno : ∀ b ∈ x.layersIn notes, b.source? ≠ some source) :
    x.layersIn notes = (notes.sources.filter (· != source)).flatMap (x.builtLayers notes) := by
  rw [layersIn_eq_flatMap] at hno ⊢
  refine (flatMap_filter_of_nil fun t ht hkeep => ?_).symm
  obtain rfl := (bne_eq_false_iff_eq ..).1 hkeep
  exact List.eq_nil_iff_forall_not_mem.2 fun b hb =>
    hno b (List.mem_flatMap.2 ⟨t, ht, hb⟩) (source?_of_mem_builtLayers hb)

section NoLayers

variable (he : notes.ChangedAt notes' source) (hrules : x.rules.askLinks = false)
  (hno : ∀ b ∈ x.layersIn notes, b.source? ≠ some source)
  (hno' : ∀ b ∈ x.layersIn notes', b.source? ≠ some source)

include he hrules hno hno'

/-- A change of a note that had no layers and has none leaves the layers of all notes. -/
theorem layersIn_of_changedAt : x.layersIn notes' = x.layersIn notes := by
  rw [layersIn_eq_flatMap_filter hno, layersIn_eq_flatMap_filter hno', he.sources]
  refine List.flatMap_congr fun t ht => ?_
  have hne : t ≠ source := bne_iff_ne.1 (List.mem_filter.1 ht).2
  unfold builtLayers
  rw [buildIndexed_congr hrules (he.read t hne)]

/-- Such a change leaves the relations too if it keeps links: the outlines of notes with markers
stay what they are. -/
theorem pairs_layersIn_of_changedAt (hlinks : notes.KeepsLinks notes' (x.layersIn notes)) :
    (LinkGraph.ofLayers notes' (x.layersIn notes')).pairs =
      (LinkGraph.ofLayers notes (x.layersIn notes)).pairs := by
  have houtline : ∀ m, .marker m ∈ x.layersIn notes →
      notes.outline? m.info.source = notes'.outline? m.info.source := by
    intro m hm
    have hne : m.info.source ≠ source := fun hs => hno _ hm (congrArg some hs)
    exact Notes.outline?_congr (he.read _ hne).symm
  rw [layersIn_of_changedAt he hrules hno hno']
  refine (LinkGraph.pairs_ofLayers_congr (fun _ => Iff.rfl) fun m m' hm hm' => ?_).symm
  exact LinkGraph.links_congr_resolve (houtline m hm) (houtline m' hm') (hlinks m m' hm hm')

end NoLayers

end Indexer

end Gazetteer
