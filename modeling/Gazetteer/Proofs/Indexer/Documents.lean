import Gazetteer.Proofs.Indexer.AllNotes
import Gazetteer.Proofs.Indexer.Generation
import Gazetteer.Proofs.Note.Source

/-!
# Which documents are indexed

When everything is indexed, a document is built if its extension is configured (`Indexer.Covers`),
and nothing is built of it otherwise (`Indexer.PassesOver`). The extension is that of the last
component of its path, if there is no `#` in the path. A document with a `#` is indexed as if its
path ended there (`SourceRef.parts_of_eq_append`), so the extension behind it is not seen.
-/

namespace Gazetteer

variable {source : SourceRef}

namespace Indexer

variable {x : Indexer} {notes : Notes} {ls : List Layer} {ds : List DroppedFact}

/-- Indexing everything takes over all layers of a document, side by side, with the pieces of text
that were dropped. -/
def Covers (x : Indexer) (notes : Notes) (source : SourceRef) : Prop :=
  ∀ ls ds, x.build notes source = .ok (ls, ds) →
    ∃ next, (x.prepareFull notes).2.next = some next ∧
      ls.map next.graph.stamp <:+: next.candidates ∧
        droppedIn source ds <:+: (x.prepareFull notes).2.dropped

/-- Indexing everything takes over nothing of a document. -/
def PassesOver (x : Indexer) (notes : Notes) (source : SourceRef) : Prop :=
  ∀ next, (x.prepareFull notes).2.next = some next →
    ∀ l ∈ next.candidates, l.source? ≠ some source

theorem mem_buildAll (hmem : source ∈ notes.sources)
    (hbuilt : x.buildIndexed notes source = .ok (ls, ds)) :
    (source, ls, ds) ∈ x.buildAll notes :=
  List.mem_filterMap.2 ⟨source, hmem, by rw [hbuilt]; rfl⟩

theorem covers_of_indexes (hmem : source ∈ notes.sources)
    (hext : x.config.indexes source.extension = true) : x.Covers notes source := by
  intro ls ds hbuild
  have hbuilt : x.advance.buildIndexed notes source = .ok (ls, ds) := by
    rw [buildIndexed_congr_settings (x := x.advance) (y := x) rfl rfl, buildIndexed, if_pos hext,
      hbuild]
  have hall := mem_buildAll hmem hbuilt
  have hlayers : ls <:+: x.advance.layersIn notes := by
    unfold layersIn
    rw [List.flatMap_def]
    exact List.infix_of_mem_flatten (List.mem_map.2 ⟨_, hall, rfl⟩)
  have hdropped : droppedIn source ds <:+: (x.prepareFull notes).2.dropped := by
    simp only [prepareFull, List.flatMap_def]
    exact List.infix_of_mem_flatten (List.mem_map.2 ⟨_, hall, rfl⟩)
  exact ⟨_, rfl, hlayers.map _, hdropped⟩

theorem passesOver_of_not_indexes (hext : x.config.indexes source.extension = false)
    (notes : Notes) : x.PassesOver notes source := by
  have hnone : x.buildIndexed notes source = .ok ([], []) := by
    unfold buildIndexed
    exact if_neg (Bool.eq_false_iff.1 hext)
  rintro _ ⟨⟩ l hl hsource
  obtain ⟨b, hb, rfl⟩ := List.mem_map.1 hl
  have hall : b ∈ x.layersIn notes := layersIn_advance x notes ▸ hb
  obtain ⟨t, -, ls, ds, hbuilt, hmem⟩ := mem_layersIn_iff.1 hall
  rw [LinkGraph.source?_stamp, source?_of_mem_buildIndexed hbuilt hmem, Option.some.injEq]
    at hsource
  rw [hsource, hnone] at hbuilt
  obtain ⟨rfl, -⟩ := Prod.mk.inj (Except.ok.inj hbuilt)
  exact List.not_mem_nil hmem

end Indexer

theorem Config.indexes_iff {config : Config} {ext : String} :
    config.indexes ext = true ↔
      ∃ e ∈ config.extensions, e.toList.map Char.toLower = ext.toList.map Char.toLower := by
  simp [Config.indexes]

namespace SourceRef

variable {init : List String} {stem ext : String}

/-- **A document is indexed by the extension in its path, but a `#` ends the path.** Let the last
component of a path be a name with an extension. The document has this name and this extension and
lies in the directory of the components in front if and only if there is no `#` in the path. Then,
whenever a store has the document and its extension is configured in any ASCII case, indexing
everything takes over all that can be built of it. A path with a `#` has the name, the directory and
the extension of what stands in front of the first one, and whether the document is indexed goes by
that extension. -/
theorem indexed_by_extension
    (hpath : Path.components source.path = init ++ [stem ++ "." ++ ext]) (hstem : stem ≠ "")
    (hext : '.' ∉ ext.toList) :
    (source.name = stem ++ "." ++ ext ∧ source.dir = "/".intercalate init ∧
        source.extension = ext ↔ '#' ∉ source.path.toList) ∧
      ('#' ∉ source.path.toList → ∀ (x : Indexer) (notes : Notes), source ∈ notes.sources →
        (∃ e ∈ x.config.extensions, e.toList.map Char.toLower = ext.toList.map Char.toLower) →
          x.Covers notes source) ∧
      ∀ front rest, source.path = front ++ "#" ++ rest → '#' ∉ front.toList →
        (source.name = (mk front).name ∧ source.dir = (mk front).dir ∧
            source.extension = (mk front).extension) ∧
          ∀ (x : Indexer) (notes : Notes), source ∈ notes.sources →
            if x.config.indexes (mk front).extension then x.Covers notes source
            else x.PassesOver notes source := by
  refine ⟨⟨fun h => not_mem_of_parts hpath h.1 h.2.1, parts_of_components hpath hstem hext⟩,
    ?_, ?_⟩
  · intro hhash x notes hmem hconfig
    have hsourceExt := (parts_of_components hpath hstem hext hhash).2.2
    exact Indexer.covers_of_indexes hmem (hsourceExt ▸ Config.indexes_iff.2 hconfig)
  · intro front rest hfront hhash
    have hparts := parts_of_eq_append hhash hfront
    refine ⟨hparts, fun x notes hmem => ?_⟩
    rw [← hparts.2.2]
    split
    · rename_i hindexes
      exact Indexer.covers_of_indexes hmem hindexes
    · rename_i hindexes
      exact Indexer.passesOver_of_not_indexes (Bool.eq_false_iff.2 hindexes) notes

/-- A new indexer that makes layers of a document. -/
theorem exists_build (notes : Notes) (source : SourceRef)
    (hbuilt : (Indexer.new .default).toOption.any (fun x =>
      (x.build notes source).toOption.any fun built => !built.1.isEmpty) = true) :
    ∃ x l ls ds, Indexer.new .default = .ok x ∧ x.build notes source = .ok (l :: ls, ds) := by
  obtain ⟨x, hx, hbuilt⟩ := exists_of_any_toOption hbuilt
  obtain ⟨built, hbuild, hne⟩ := exists_of_any_toOption hbuilt
  obtain ⟨l, ls, hls⟩ := List.exists_cons_of_ne_nil (l := built.1) fun he => by
    rw [he] at hne
    cases hne
  exact ⟨x, l, ls, built.2, hx, by rw [hbuild, ← hls]⟩

/-- Two dots in a name and an extension in capitals. -/
theorem indexed_by_extension_capitals :
    let source : SourceRef := ⟨"Trips/Rome.v2.MD"⟩
    let notes := (NoteStore.ofList [(source.path, "[a](geo:1,2)")]).notes
    ∃ x next l, Indexer.new .default = .ok x ∧ source.name = "Rome.v2.MD" ∧
      source.dir = "Trips" ∧ source.extension = "MD" ∧
        (x.prepareFull notes).2.next = some next ∧ l ∈ next.candidates ∧
          l.source? = some source := by
  intro source notes
  obtain ⟨x, l, ls, ds, hx, hbuild⟩ := exists_build notes source (by decide +kernel)
  have hconfig := Indexer.config_of_new hx
  have hhash : '#' ∉ source.path.toList := by decide +kernel
  have hmem : source ∈ notes.sources := by decide +kernel
  have hpath : Path.components source.path = ["Trips"] ++ ["Rome.v2" ++ "." ++ "MD"] := by
    decide +kernel
  obtain ⟨hparts, hcovers, -⟩ := indexed_by_extension hpath (by decide) (by decide)
  obtain ⟨hname, hdir, hext⟩ := hparts.2 hhash
  obtain ⟨next, hnext, hlayers, -⟩ := hcovers hhash x notes hmem
    ⟨"md", by rw [hconfig]; decide +kernel, by decide +kernel⟩ _ _ hbuild
  refine ⟨x, next, _, hx, hname, hdir, hext, hnext, hlayers.subset List.mem_cons_self, ?_⟩
  rw [LinkGraph.source?_stamp, Indexer.source?_of_mem_build hbuild List.mem_cons_self]

/-- A document whose extension is configured and that has a place, of which nothing is indexed. -/
theorem passed_over_for_hash :
    let source : SourceRef := ⟨"C#.md"⟩
    let notes := (NoteStore.ofList [(source.path, "[a](geo:1,2)")]).notes
    Path.components source.path = ["C#.md"] ∧ source ∈ notes.sources ∧ source.name = "C" ∧
      source.extension = "" ∧
        ∃ x l ls ds, Indexer.new .default = .ok x ∧ "md" ∈ x.config.extensions ∧
          x.build notes source = .ok (l :: ls, ds) ∧ x.PassesOver notes source := by
  intro source notes
  obtain ⟨x, l, ls, ds, hx, hbuild⟩ := exists_build notes source (by decide +kernel)
  have hconfig := Indexer.config_of_new hx
  refine ⟨by decide +kernel, by decide +kernel, by decide +kernel, by decide +kernel,
    x, l, ls, ds, hx, by rw [hconfig]; decide +kernel, hbuild, ?_⟩
  exact Indexer.passesOver_of_not_indexes (by rw [hconfig]; decide +kernel) notes

end SourceRef

end Gazetteer
