import Gazetteer.Layer.Building
import Gazetteer.Proofs.Note.Facts
import Mathlib.Data.List.Forall2

/-!
# From text to layers

No fact of a note is lost on the way to its layers. The facts and the dropped pieces of a notation
are the occurrences of its pattern, each of them knows where it stands, and each fact has a layer of
its own (`Layer.forall₂_ofFacts`): the only reason to leave one out would be a position that is
none.
-/

namespace Gazetteer

variable {notes : Notes} {rules : Option DisplayRules} {source : SourceRef} {text : List Char}
  {fileTags : List String} {f : Fact} {fs : List Fact} {l : Layer} {i : LayerInfo}

/-- The payload of the fact that a layer was made of. -/
def Layer.payload? : Layer → Option Payload
  | .marker m => some (.place m.location)
  | .geometry g => some (.geometry g.geometry)
  | _ => none

/-- What a layer knows about its note is what there is to know about a fact. -/
structure LayerInfo.Describes (i : LayerInfo) (source : SourceRef) (text : List Char) (f : Fact) :
    Prop where
  source : i.source = source
  factKind : i.factKind = some f.kind
  displayName : i.displayName = f.displayName
  offset : i.offset = f.spot.map (·.offset)
  byteOffset : i.byteOffset = f.spot.map (·.byteOffset)
  /-- The number of line feeds before the fact. -/
  line : i.line = f.spot.map fun spot => (text.take spot.offset).count '\n'
  rawText : i.rawText = f.spot.map fun _ => String.ofList f.text

theorem LayerInfo.Describes.withId (h : i.Describes source text f) (id : String) :
    { i with id }.Describes source text f :=
  ⟨h.source, h.factKind, h.displayName, h.offset, h.byteOffset, h.line, h.rawText⟩

/-- A layer shows a fact. -/
def Layer.Shows (l : Layer) (source : SourceRef) (text : List Char) (f : Fact) : Prop :=
  l.payload? = some f.payload ∧ ∃ i, l.info? = some i ∧ i.Describes source text f

/-- The position of a fact, if it has one, is a place at which the text can be cut. -/
def Fact.HasPlaceIn (f : Fact) (text : List Char) : Prop :=
  ∀ spot, f.spot = some spot →
    Text.splitBytes text spot.byteOffset = some (text.take spot.offset, text.drop spot.offset)

namespace Layer

/-! ## Layers of facts -/

theorem shows_style_iff : (l.style rules notes).Shows source text f ↔ l.Shows source text f := by
  unfold style
  cases rules with
  | none => exact Iff.rfl
  | some rs => cases l <;> exact Iff.rfl

theorem exists_infoOf_eq_some (source : SourceRef) (outline : Option Outline)
    (fileTags : List String) (h : f.HasPlaceIn text) :
    ∃ i, infoOf source outline text fileTags f = some i ∧ i.Describes source text f := by
  unfold infoOf
  cases hs : f.spot with
  | none => exact ⟨_, rfl, rfl, rfl, rfl, by rw [hs]; rfl, by rw [hs]; rfl, by rw [hs]; rfl,
      by rw [hs]; rfl⟩
  | some spot =>
    simp only [h spot hs, Option.map_some]
    exact ⟨_, rfl, rfl, rfl, rfl, by rw [hs]; rfl, by rw [hs]; rfl, by rw [hs]; rfl,
      by rw [hs]; rfl⟩

theorem info?_ofPayload (i : LayerInfo) (payload : Payload) :
    (ofPayload i payload).info? = some { i with id := (ofPayload i payload).id } := by
  cases payload <;> rfl

theorem shows_ofPayload (h : i.Describes source text f) :
    (ofPayload i f.payload).Shows source text f := by
  refine ⟨?_, _, info?_ofPayload i f.payload, h.withId _⟩
  cases f.payload <;> rfl

/-- Facts that stand in a text have one layer each, in their order. -/
theorem forall₂_ofFacts (notes : Notes) (rules : Option DisplayRules) (source : SourceRef)
    (fileTags : List String) (h : ∀ f ∈ fs, f.HasPlaceIn text) :
    List.Forall₂ (fun f l => l.Shows source text f) fs
      (ofFacts notes rules source text fs fileTags) := by
  induction fs with
  | nil => exact .nil
  | cons f fs ih =>
    obtain ⟨hf, hfs⟩ := List.forall_mem_cons.1 h
    obtain ⟨i, hi, hdescribes⟩ :=
      exists_infoOf_eq_some source (notes.outline? source) fileTags hf
    have hcons : ofFacts notes rules source text (f :: fs) fileTags =
        (ofPayload i f.payload).style rules notes ::
          ofFacts notes rules source text fs fileTags := by
      unfold ofFacts
      rw [List.filterMap_cons, hi]
      rfl
    rw [hcons]
    exact .cons (shows_style_iff.2 (shows_ofPayload hdescribes)) (ih hfs)

theorem exists_shows_of_mem_ofFacts (h : ∀ f ∈ fs, f.HasPlaceIn text)
    (hl : l ∈ ofFacts notes rules source text fs fileTags) : ∃ f ∈ fs, l.Shows source text f := by
  obtain ⟨f, hf, hmap⟩ := List.mem_filterMap.1 hl
  obtain ⟨i, hi, hdescribes⟩ :=
    exists_infoOf_eq_some source (notes.outline? source) fileTags (h f hf)
  rw [hi, Option.map_some, Option.some.injEq] at hmap
  subst hmap
  exact ⟨f, hf, shows_style_iff.2 (shows_ofPayload hdescribes)⟩

/-! ## Notes -/

theorem hasPlaceIn_of_mem_ofNote {frontMatter : Option Json} {key : String}
    (h : f ∈ (Extraction.ofNote text frontMatter key).facts) : f.HasPlaceIn text := by
  intro spot hs
  obtain ⟨p, m, hm, -, rfl⟩ := Extraction.exists_standsIn_of_spot h hs
  exact hm.splitBytes_eq

/-- Every layer of a note shows a fact of it. -/
theorem exists_shows_of_mem_ofSource {s : LayerSettings} {ls : List Layer} {ds : List DroppedFact}
    (h : ofSource notes s source = .ok (ls, ds)) (hl : l ∈ ls) :
    ∃ note, notes.read source = .ok note ∧
      ∃ f ∈ (Extraction.ofNote note.text.toList note.frontMatter s.key).facts,
        l.Shows source note.text.toList f := by
  obtain ⟨note, hnote, hbuilt⟩ := exists_of_bind_eq_ok h
  cases hbuilt
  exact ⟨note, hnote, exists_shows_of_mem_ofFacts (fun f hf => hasPlaceIn_of_mem_ofNote hf) hl⟩

/-- **No fact is lost between text and layers.** For every text, front matter and key, whatever the
notes around are and however layers are drawn:

* for each text notation, its facts and its dropped pieces are, one for each and in their order, the
  successive leftmost occurrences of its pattern, which do not overlap; a fact has the place or the
  geometry, the name and the tags that the groups of its match hold, and a piece is dropped for the
  reason why they hold none;
* the places written as code come first, then those written as links, then the geometries, then the
  place in the front matter, if there is one, of which nothing is dropped;
* every fact of a text notation stands where it says it stands, in bytes and in characters;
* there is one layer for each fact, in the same order, which shows it and knows the number of line
  feeds before it. -/
theorem layer_for_each_fact (text : List Char) (frontMatter : Option Json) (key : String)
    (notes : Notes) (rules : Option DisplayRules) (source : SourceRef) (fileTags : List String) :
    let e := Extraction.ofNote text frontMatter key
    (∀ kind p, FactKind.pattern? kind = some p →
      ∃ ms found,
        p.Successive text 0 ms ∧
        ms.Pairwise (fun m m' => m.byteStart + m.byteLength ≤ m'.byteStart) ∧
        List.Forall₂ (Extraction.StandsFor kind) ms found ∧
        e.facts.filter (·.kind == kind) = found.filterMap Sum.getLeft? ∧
        e.dropped.filter (·.kind == kind) = found.filterMap Sum.getRight?) ∧
    (∃ front,
      e.facts = e.facts.filter (·.kind == .legacy) ++ e.facts.filter (·.kind == .inline) ++
        e.facts.filter (·.kind == .geometryBlock) ++ front ∧
      (∀ f ∈ front, f.kind = .frontMatter ∧ f.spot = none) ∧
      front.map Fact.payload =
        ((frontMatter.bind (LatLng.ofFrontMatter · key)).map Payload.place).toList ∧
      front.length ≤ 1) ∧
    (∀ d ∈ e.dropped, d.kind ≠ .frontMatter) ∧
    (∀ f ∈ e.facts, f.kind ≠ .frontMatter → ∃ spot, f.spot = some spot ∧
      Text.sliceBytes text spot.byteOffset (spot.byteOffset + Text.utf8Length f.text) =
        some f.text ∧
      ∃ before after, Text.splitBytes text spot.byteOffset = some (before, after) ∧
        spot.offset = before.length) ∧
    List.Forall₂ (fun f l => Layer.Shows l source text f) e.facts
      (ofFacts notes rules source text e.facts fileTags) := by
  intro e
  refine ⟨fun kind p hp => ?_, ?_, ?_, ?_, ?_⟩
  · have hms := Pattern.successive_occurrences (FactKind.mayBeEmpty_pattern hp) text
    refine ⟨p.occurrences text, (p.occurrences text).map (Extraction.found kind), hms,
      hms.pairwise_bytes, ?_, ?_, ?_⟩
    · rw [List.forall₂_map_right_iff, List.forall₂_same]
      exact fun m _ => Extraction.standsFor_found kind m
    · rw [Extraction.filter_facts_ofNote hp, Extraction.ofKind, Extraction.matchesOf, hp]
      rfl
    · rw [Extraction.filter_dropped_ofNote hp, Extraction.ofKind, Extraction.matchesOf, hp]
      rfl
  · refine ⟨_, Extraction.facts_ofNote_eq text frontMatter key,
      fun f hf => Extraction.kind_of_mem_facts_ofFrontMatter hf,
      Extraction.payload_facts_ofFrontMatter frontMatter key, ?_⟩
    rw [← List.length_map Fact.payload, Extraction.payload_facts_ofFrontMatter]
    exact Option.length_toList_le
  · exact fun d hd => Extraction.kind_of_mem_dropped_ofNote hd
  · intro f hf hkind
    obtain ⟨spot, hs⟩ := Extraction.exists_spot_of_kind_ne hf hkind
    obtain ⟨p, m, hm, htext, rfl⟩ := Extraction.exists_standsIn_of_spot hf hs
    refine ⟨_, hs, ?_, _, _, hm.splitBytes_eq, hm.length_take_start.symm⟩
    rw [htext]
    exact hm.sliceBytes_eq
  · exact forall₂_ofFacts notes rules source fileTags fun f hf => hasPlaceIn_of_mem_ofNote hf

end Layer

end Gazetteer
