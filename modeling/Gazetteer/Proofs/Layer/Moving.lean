import Gazetteer.Proofs.Layer.Facts
import Gazetteer.Proofs.Note.Rewriting
import Gazetteer.Proofs.Note.Spots
import Gazetteer.Store.Basic

/-!
# Moving the place of a fact

A marker is moved where its text stands (`Marker.moveIn_of_standsBetween`). For the marker of a fact
of the text, what is read from the text after that can be said in full. A place that is written as a
link has moved then, and nothing else has changed. A place that is written as code becomes a link: a
bracket that was left open in front of the code takes it into its own name, and tag items behind the
code become its tags.
-/

namespace Gazetteer

open Pattern (isNameChar first?_rewritten)

variable {source : SourceRef} {text before after : List Char} {frontMatter : Option Json}
  {key : String} {f r : Fact} {fs : List Fact} {i : LayerInfo} {m : Marker} {p q : LatLng} {n : Nat}

/-! ## Layers that stand in a text -/

/-- The text of a fact stands between two pieces of a text, where its layer knows it to stand. -/
structure LayerInfo.StandsBetween (i : LayerInfo) (text before raw after : List Char) : Prop where
  text : text = before ++ (raw ++ after)
  byteOffset : i.byteOffset = some (Text.utf8Length before)
  rawText : i.rawText = some (String.ofList raw)

def LayerInfo.StandsIn (i : LayerInfo) (text : List Char) : Prop :=
  ∃ before raw after, i.StandsBetween text before raw after

theorem LayerInfo.StandsIn.congr {i' : LayerInfo} (h : i.StandsIn text)
    (hbyte : i'.byteOffset = i.byteOffset) (hraw : i'.rawText = i.rawText) : i'.StandsIn text := by
  obtain ⟨before, raw, after, hi⟩ := h
  exact ⟨before, raw, after, hi.text, hbyte.trans hi.byteOffset, hraw.trans hi.rawText⟩

/-- Where the text of a layer is found when a text is cut at its position, there it stands. -/
theorem LayerInfo.standsBetween_of_split {offset : Nat} {raw : String}
    {before rest after : List Char} (ho : i.byteOffset = some offset)
    (hr : i.rawText = some raw)
    (hsplit : Text.splitBytes text offset = some (before, rest))
    (hrest : List.isPrefixOf? raw.toList rest = some after) :
    i.StandsBetween text before raw.toList after := by
  obtain ⟨rfl, hlen⟩ := Text.eq_append_of_splitBytes hsplit
  rw [← List.isPrefixOf?_eq_some_iff_append_eq.1 hrest]
  exact ⟨rfl, by rw [ho, hlen], by rw [hr, String.ofList_toList]⟩

/-- What is known about a fact with a position stands in the text of the fact. -/
theorem LayerInfo.Describes.standsIn {frontMatter : Option Json} {key : String}
    (h : i.Describes source text f) (hf : f ∈ (Extraction.ofNote text frontMatter key).facts)
    (ho : i.offset ≠ none) : i.StandsIn text := by
  obtain ⟨spot, hs⟩ : ∃ spot, f.spot = some spot := by
    rw [h.offset, ne_eq, Option.map_eq_none_iff] at ho
    exact Option.ne_none_iff_exists'.1 ho
  obtain ⟨q, w, ⟨before, after, htext, -, hbyte, -⟩, hraw, rfl⟩ :=
    Extraction.exists_standsIn_of_spot hf hs
  refine ⟨before, w.text, after, htext, ?_, ?_⟩
  · rw [h.byteOffset, hs, Option.map_some, hbyte]
  · rw [h.rawText, hs, Option.map_some, hraw]

/-! ## Moving one marker -/

namespace Marker

/-- Moving a marker puts a link in the place of its text. -/
theorem moveIn_of_standsBetween {before raw after : List Char} (hp : p.IsPlace)
    (h : m.info.StandsBetween text before raw after) :
    m.moveIn text p =
      .ok (before ++ writePlace (m.info.displayName.getD "") p (m.writtenTags raw) ++ after) := by
  have hcheck : p.check = .ok p := LatLng.check_eq_ok_iff.2 ⟨rfl, hp⟩
  have hrest : List.isPrefixOf? raw (raw ++ after) = some after :=
    List.isPrefixOf?_eq_some_iff_append_eq.2 rfl
  have hsplit : Text.splitBytes text (Text.utf8Length before) = some (before, raw ++ after) := by
    rw [h.text, Text.splitBytes_append]
  simp only [moveIn, hcheck, h.byteOffset, h.rawText, hsplit, String.toList_ofList, hrest]
  rfl

/-- Where its text does not stand any more, the text is said to have changed. -/
theorem moveIn_of_not_standsIn (hp : p.IsPlace) {offset : Nat} {raw : String}
    (ho : m.info.byteOffset = some offset) (hr : m.info.rawText = some raw)
    (h : ¬m.info.StandsIn text) :
    m.moveIn text p = .error (.textChanged m.info.source m.info.id) := by
  have hcheck : p.check = .ok p := LatLng.check_eq_ok_iff.2 ⟨rfl, hp⟩
  simp only [moveIn, hcheck, ho, hr]
  cases hsplit : Text.splitBytes text offset with
  | none => rfl
  | some parts =>
    cases hrest : List.isPrefixOf? raw.toList parts.2 with
    | none =>
      simp only [hrest]
      rfl
    | some after => exact absurd ⟨_, _, _, LayerInfo.standsBetween_of_split ho hr hsplit hrest⟩ h

end Marker

/-! ## The marker of a fact -/

/-- A place in a text has a marker that knows where it stands. -/
theorem Layer.exists_marker_of_place (notes : Notes) (rules : Option DisplayRules)
    (source : SourceRef) (fileTags : List String) (hfs : ∀ f ∈ fs, f.HasPlaceIn text)
    (hr : fs[n]? = some r) (hplace : r.payload = .place q)
    (hs : r.spot = some ⟨before.length, Text.utf8Length before⟩)
    (htext : text = before ++ (r.text ++ after)) :
    ∃ m, (ofFacts notes rules source text fs fileTags)[n]? = some (.marker m) ∧
      m.info.factKind = some r.kind ∧ m.info.displayName = r.displayName ∧
        m.info.StandsBetween text before r.text after := by
  have hshows := forall₂_ofFacts notes rules source fileTags hfs
  obtain ⟨hn, rfl⟩ := List.getElem?_eq_some_iff.1 hr
  have hn' : n < (ofFacts notes rules source text fs fileTags).length := hshows.length_eq ▸ hn
  obtain ⟨hpayload, i, hi, hdescribes⟩ := hshows.get hn hn'
  rw [List.getElem?_eq_getElem hn']
  simp only [List.get_eq_getElem] at hpayload hi hdescribes
  cases hl : (ofFacts notes rules source text fs fileTags)[n] with
  | marker m =>
    rw [hl] at hi
    obtain rfl := Option.some.inj hi
    refine ⟨m, rfl, hdescribes.factKind, hdescribes.displayName, htext, ?_, ?_⟩
    · rw [hdescribes.byteOffset, hs]
      rfl
    · rw [hdescribes.rawText, hs]
      rfl
  | _ =>
    rw [hl, hplace] at hpayload
    cases hpayload

namespace Marker

theorem writtenTags_of_legacy (h : m.info.factKind = some .legacy) (raw : List Char) :
    m.writtenTags raw = [] := by
  unfold writtenTags
  rw [if_neg (by rw [h]; decide)]

/-- The tags behind a link are written anew with one space in front of them. -/
theorem writtenTags_of_inline {s : List Char} {t : Pattern.Outcome}
    (h : m.info.factKind = some .inline) (ht : Pattern.trailingTags.first? s = some t)
    (k : LinkText) : m.writtenTags (k.text ++ t.text) = t.rewritten.text := by
  unfold writtenTags
  rw [if_pos h, k.find?_inlineLocation ht, Option.bind_some, (k.group?_toMatch ht []).2.1]
  unfold Pattern.Outcome.rewritten
  cases t.tags? <;> rfl

end Marker

/-! ## Moving a link -/

namespace Extraction

/-- The facts of a note that are written in one notation are the facts of this notation. -/
theorem mem_facts_ofKind_of_mem {kind : FactKind} {pattern : Pattern}
    (hpattern : kind.pattern? = some pattern)
    (hf : f ∈ (ofNote text frontMatter key).facts) (hkind : f.kind = kind) :
    f ∈ (ofKind kind text).facts := by
  have hfilter : (ofNote text frontMatter key).facts.filter (·.kind == kind) = _ :=
    filter_facts_ofNote hpattern
  rw [← hfilter]
  exact List.mem_filter.2 ⟨hf, beq_iff_eq.2 hkind⟩

/-- The fact of a link belongs to a match of it with the tags behind it. -/
theorem exists_link_of_mem (hr : r ∈ (ofKind .inline text).facts) :
    ∃ a k s t, Pattern.trailingTags.first? s = some t ∧
      LinkText.toMatch k a t ∈ Pattern.inlineLocation.occurrences text ∧
      (found .inline (k.toMatch a t)).getLeft? = some r ∧
      text = a ++ ((k.toMatch a t).text ++ t.rest) := by
  obtain ⟨m, hm, hfound⟩ := mem_facts_inline_iff.1 hr
  obtain ⟨a, k, s, t, htext, ht, rfl⟩ :=
    standsIn_inlineLocation_iff.1 (mem_occurrences_inlineLocation_iff.1 hm).1
  refine ⟨a, k, s, t, ht, hm, hfound, ?_⟩
  rw [htext, ← Pattern.text_append_rest (Pattern.mem_outcomes_of_first? ht)]
  exact congrArg (a ++ ·) (List.append_assoc ..).symm

end Extraction

/-- **A place that is written as a link moves, and nothing else changes.** Whatever stands around
it, and however the layers of the note are drawn: the marker of a fact of a link can be moved to any
place whose numbers read back as they are written. Then the text in front of the link and behind it
is as it was, and the facts of links in the new text are those of the old one in their order; the
one at this position has the new place, with its name and its tags, and the others are as they were,
those behind it moved by the change in length. -/
theorem Marker.moveIn_link (notes : Notes) (rules : Option DisplayRules) (source : SourceRef)
    (fileTags : List String)
    (hr : (Extraction.ofNote text frontMatter key).facts[n]? = some r) (hkind : r.kind = .inline)
    (hp : p.IsPlace) (hback : p.ReadsBack) :
    let facts := (Extraction.ofNote text frontMatter key).facts
    ∃ m before after,
      (Layer.ofFacts notes rules source text facts fileTags)[n]? = some (.marker m) ∧
      text = before ++ (r.text ++ after) ∧
      r.spot = some ⟨before.length, Text.utf8Length before⟩ ∧
      let written := writePlace (r.displayName.getD "") p (m.writtenTags r.text)
      m.moveIn text p = .ok (before ++ written ++ after) ∧
      ∀ frontMatter' key',
        (Extraction.ofNote (before ++ written ++ after) frontMatter' key').facts.filter
            (·.kind == .inline) =
          (facts.filter (·.kind == .inline)).map (·.afterMove r before p written) := by
  intro facts
  obtain ⟨a, k, s, t, ht, hm, hfound, htext⟩ :=
    Extraction.exists_link_of_mem (Extraction.mem_facts_ofKind_of_mem rfl (List.mem_of_getElem? hr) hkind)
  obtain ⟨hholds, -, -, hrt, hs⟩ := Extraction.readFrom_of_getLeft? hfound
  obtain ⟨⟨q, hq⟩, hdisplay⟩ := hholds.place_of_ne (by decide)
  obtain ⟨m, hlayer, hfact, hname, hstands⟩ :=
    Layer.exists_marker_of_place notes rules source fileTags
      (fun f hf => Layer.hasPlaceIn_of_mem_ofNote hf) hr hq hs (hrt ▸ htext)
  -- the link that is written has the name as it was read, and the tags that were there
  have hok : ∀ c ∈ Unicode.trim k.name, Pattern.isNameChar c = true := fun c hc =>
    k.name_ok c (Unicode.mem_of_mem_trim hc)
  have hfound' := LinkText.getLeft?_found_rewritten ht hfound hok hp hback
  have hwritten : writePlace (r.displayName.getD "") p (m.writtenTags r.text) =
      ((LinkText.ofPlace (Unicode.trim k.name) p hok hp hback).toMatch a t.rewritten).text := by
    rw [hrt, LinkText.toMatch, writtenTags_of_inline (hfact.trans (congrArg some hkind)) ht,
      hdisplay]
    exact LinkText.writePlace_eq
      (Extraction.toList_groupText (LinkText.group?_toMatch ht k a).1) _
  have hexchanged := Exchanged.of_link (htext ▸ hm) rfl
    (LinkText.ofPlace (Unicode.trim k.name) p hok hp hback) (first?_rewritten ht)
  refine ⟨m, a, t.rest, hlayer, hstands.text, hs, ?_, fun frontMatter' key' => ?_⟩
  · rw [Marker.moveIn_of_standsBetween hp hstands, hname]
  · rw [Extraction.filter_facts_ofNote rfl, Extraction.filter_facts_ofNote rfl, hwritten,
      List.append_assoc, hexchanged.facts_eq hfound hfound', ← htext]

/-- The name loses the blanks around it, and the tags get one space in front of them. -/
theorem Marker.moveIn_link_named :
    let text := "é [ Cafe ](geo: 1, 2)\ttag:food, [c](geo:5,6)".toList
    let moved := "é [Cafe](geo:3,4) tag:food, [c](geo:5,6)".toList
    let facts := (Extraction.ofNote text none "location").facts
    ∃ r m before written, facts[0]? = some r ∧ r.kind = .inline ∧ LatLng.IsPlace ⟨3, 4⟩ ∧
      LatLng.ReadsBack ⟨3, 4⟩ ∧
      (Layer.ofFacts (NoteStore.ofList []).notes none ⟨"A.md"⟩ text facts [])[0]? =
        some (.marker m) ∧
      m.moveIn text ⟨3, 4⟩ = .ok moved ∧
      (Extraction.ofNote moved none "location").facts.filter (·.kind == .inline) =
        (facts.filter (·.kind == .inline)).map (·.afterMove r before ⟨3, 4⟩ written) := by
  intro text moved facts
  have hfact : facts[0]?.any (·.kind == .inline) = true := by decide +kernel
  have hmoved : (Layer.ofFacts (NoteStore.ofList []).notes none ⟨"A.md"⟩ text facts [])[0]?.any
      (fun l => l.marker?.any fun m => m.moveIn text ⟨3, 4⟩ == .ok moved) = true := by
    decide +kernel
  have hplace : LatLng.IsPlace ⟨3, 4⟩ := by decide +kernel
  have hback : LatLng.ReadsBack ⟨3, 4⟩ := ⟨by decide +kernel, by decide +kernel⟩
  obtain ⟨r, hr, hkind⟩ := (Option.any_eq_true ..).1 hfact
  obtain ⟨m, before, after, hlayer, -, -, hmove, hfacts⟩ :=
    moveIn_link (NoteStore.ofList []).notes none ⟨"A.md"⟩ [] hr (beq_iff_eq.1 hkind) hplace hback
  rw [hlayer] at hmoved
  have hmoved : m.moveIn text ⟨3, 4⟩ = .ok moved := beq_iff_eq.1 hmoved
  have heq := Except.ok.inj (hmove.symm.trans hmoved)
  have hlinks := hfacts none "location"
  rw [heq] at hlinks
  exact ⟨r, m, before, _, hr, beq_iff_eq.1 hkind, hplace, hback, hlayer, hmoved, hlinks⟩

/-! ## Moving a place that is written as code -/

/-- Two facts do not overlap. -/
def Fact.Beside (f r : Fact) : Prop :=
  ∃ s s' : Spot, f.spot = some s ∧ r.spot = some s' ∧
    (s.offset + f.text.length ≤ s'.offset ∨ s'.offset + r.text.length ≤ s.offset)

/-- The fact of a place that is written as code has no name, and its text begins with a code
mark. -/
theorem Extraction.exists_code_of_mem (hr : r ∈ (ofKind .legacy text).facts) :
    ∃ a w b, text = a ++ (r.text ++ b) ∧ r.spot = some ⟨a.length, Text.utf8Length a⟩ ∧
      r.text = Pattern.codeMark :: w ∧ (∃ q, r.payload = .place q) ∧ r.displayName = none := by
  obtain ⟨m, hm, hfound⟩ := mem_facts_ofKind_iff.1 hr
  have hm : m.StandsIn Pattern.legacyLocation text :=
    (Pattern.successive_occurrences rfl text).standsIn m hm
  obtain ⟨hholds, -, -, hrt, hs⟩ := readFrom_of_found hfound
  obtain ⟨hplace, hname⟩ := hholds.place_of_ne (by decide)
  have ⟨a, b, htext, hstart, hbyte, hspans, _⟩ := hm
  have hopening : FactKind.opening .legacy <+: m.text := FactKind.opening_of_spans rfl hspans
  obtain ⟨w, hw⟩ := hopening
  refine ⟨a, _, b, hrt ▸ htext, hstart ▸ hbyte ▸ hs, hrt.trans hw.symm, hplace, ?_⟩
  exact hname.trans (groupText_eq_none (hm.group?_eq_none rfl (by decide)))

/-- **A place that is written as code becomes a link.** Whatever stands around it, and however the
layers of the note are drawn: the marker of a fact of code can be moved to any place whose numbers
read back as they are written. Then the text in front of the code and behind it is as it was, and
the facts of links that did not overlap the code are found as before, those behind it moved by the
change in length. But the link that is written has other surroundings than the code had:

* where a bracket is open in front of it, there is no fact of a link at its position, as the match
  begins at that bracket; otherwise there is one, with the new place and without a name;
* it has no tags unless tag items follow, which did not belong to the code. -/
theorem Marker.moveIn_code (notes : Notes) (rules : Option DisplayRules) (source : SourceRef)
    (fileTags : List String)
    (hr : (Extraction.ofNote text frontMatter key).facts[n]? = some r) (hkind : r.kind = .legacy)
    (hp : p.IsPlace) (hback : p.ReadsBack) :
    let facts := (Extraction.ofNote text frontMatter key).facts
    ∃ m before after,
      (Layer.ofFacts notes rules source text facts fileTags)[n]? = some (.marker m) ∧
      text = before ++ (r.text ++ after) ∧
      r.spot = some ⟨before.length, Text.utf8Length before⟩ ∧
      let written := writePlace "" p []
      m.moveIn text p = .ok (before ++ written ++ after) ∧
      ∀ frontMatter' key',
        let links := (Extraction.ofNote (before ++ written ++ after) frontMatter' key').facts.filter
          (·.kind == .inline)
        ((∃ f ∈ links, f.spot = r.spot) ↔ ¬OpenAtEnd before) ∧
        (∀ f ∈ links, f.spot = r.spot → f.payload = .place p ∧ f.displayName = none ∧
          (f.tagsText = none ↔ ¬Pattern.TagsFollow after)) ∧
        ∀ f ∈ facts, f.kind = .inline → f.Beside r → f.shifted before r.text written ∈ links := by
  intro facts
  obtain ⟨a, w, b, htext, hs, hcode, ⟨q, hq⟩, hdisplay⟩ :=
    Extraction.exists_code_of_mem (Extraction.mem_facts_ofKind_of_mem rfl (List.mem_of_getElem? hr) hkind)
  obtain ⟨m, hlayer, hfact, hname, hstands⟩ :=
    Layer.exists_marker_of_place notes rules source fileTags
      (fun f hf => Layer.hasPlaceIn_of_mem_ofNote hf) hr hq hs htext
  have hlink : writePlace "" p [] = (LinkText.ofPlace [] p (by simp) hp hback).text :=
    (LinkText.writePlace_eq rfl []).trans (List.append_nil _)
  have hclosed : ClosedAtEnd (LinkText.ofPlace [] p (by simp) hp hback).text := by
    simpa using LinkText.closedAtEnd (x := []) (by simp)
  have hlinks : ∀ text frontMatter key, (Extraction.ofNote text frontMatter key).facts.filter
      (·.kind == .inline) = (Extraction.ofKind .inline text).facts :=
    fun _ _ _ => Extraction.filter_facts_ofNote rfl
  refine ⟨m, a, b, hlayer, htext, hs, ?_, fun frontMatter' key' => ?_⟩
  · rw [Marker.moveIn_of_standsBetween hp hstands, hname, hdisplay,
      writtenTags_of_legacy (hfact.trans (congrArg some hkind))]
    rfl
  · simp only [hlinks, hlink, List.append_assoc, hs]
    refine ⟨LinkText.exists_fact_ofPlace_iff a b, fun f hf hspot => LinkText.fact_ofPlace hf hspot,
      fun f hf hinline h => ?_⟩
    obtain ⟨s, s', hfs, hs', hbeside⟩ := h
    rw [hs, Option.some.injEq] at hs'
    subst hs'
    have hf' := Extraction.mem_facts_ofKind_of_mem rfl hf hinline
    rw [htext] at hf'
    exact mem_facts_of_change hcode (by decide +kernel) rfl (by decide +kernel) hclosed hf' hfs
      hbeside

/-- Between words, the place that was code is a link without name and tags. -/
theorem Marker.moveIn_code_between_words :
    let text := "é ".toList ++ ("`location: [1, 2]`".toList ++ " or [c](geo:5,6)".toList)
    let moved := "é [](geo:3,4) or [c](geo:5,6)".toList
    let facts := (Extraction.ofNote text none "location").facts
    ∃ r m, facts[0]? = some r ∧ r.kind = .legacy ∧ LatLng.IsPlace ⟨3, 4⟩ ∧
      LatLng.ReadsBack ⟨3, 4⟩ ∧
      (Layer.ofFacts (NoteStore.ofList []).notes none ⟨"A.md"⟩ text facts [])[0]? =
        some (.marker m) ∧
      m.moveIn text ⟨3, 4⟩ = .ok moved ∧
      ∃ f ∈ (Extraction.ofNote moved none "location").facts, f.kind = .inline ∧ f.spot = r.spot ∧
        f.payload = .place ⟨3, 4⟩ ∧ f.displayName = none ∧ f.tagsText = none := by
  intro text moved facts
  have hfact : facts[0]?.any (fun r => r.kind == .legacy && r.spot == some ⟨2, 3⟩ &&
      r.text == "`location: [1, 2]`".toList) = true := by decide +kernel
  have hwritten : "é ".toList ++ writePlace "" ⟨3, 4⟩ [] ++ " or [c](geo:5,6)".toList = moved := by
    decide +kernel
  have hplace : LatLng.IsPlace ⟨3, 4⟩ := by decide +kernel
  have hback : LatLng.ReadsBack ⟨3, 4⟩ := ⟨by decide +kernel, by decide +kernel⟩
  obtain ⟨r, hr, hcheck⟩ := (Option.any_eq_true ..).1 hfact
  simp only [Bool.and_eq_true, beq_iff_eq] at hcheck
  obtain ⟨⟨hkind, hspot⟩, hraw⟩ := hcheck
  obtain ⟨m, before, after, hlayer, htext, hbefore, hmove, hfacts⟩ :=
    moveIn_code (NoteStore.ofList []).notes none ⟨"A.md"⟩ [] hr hkind hplace hback
  rw [hspot, Option.some.injEq, Spot.mk.injEq] at hbefore
  obtain ⟨rfl, hrest⟩ := List.append_inj htext hbefore.1
  rw [hraw] at hrest
  obtain rfl := List.append_cancel_left hrest
  obtain ⟨hfound, hfact, -⟩ := hfacts none "location"
  obtain ⟨f, hf, hs⟩ := hfound.2 (by decide)
  obtain ⟨hpayload, hname, htags⟩ := hfact f hf hs
  rw [hwritten] at hmove hf
  obtain ⟨hf, hinline⟩ := List.mem_filter.1 hf
  exact ⟨r, m, hr, hkind, hplace, hback, hlayer, hmove, f, hf, beq_iff_eq.1 hinline, hs, hpayload,
    hname, htags.2 (by decide)⟩

/-- A tag item behind the code, which meant nothing there, is a tag of the link. -/
theorem Marker.moveIn_code_followed_by_tag :
    let text := "`location: 1,2` tag:x".toList
    let moved := "[](geo:3,4) tag:x".toList
    let facts := (Extraction.ofNote text none "location").facts
    ∃ r m, facts[0]? = some r ∧ r.kind = .legacy ∧ r.tagsText = none ∧ LatLng.IsPlace ⟨3, 4⟩ ∧
      LatLng.ReadsBack ⟨3, 4⟩ ∧
      (Layer.ofFacts (NoteStore.ofList []).notes none ⟨"A.md"⟩ text facts [])[0]? =
        some (.marker m) ∧
      m.moveIn text ⟨3, 4⟩ = .ok moved ∧
      ∀ f ∈ (Extraction.ofNote moved none "location").facts, f.kind = .inline → f.spot = r.spot →
        f.tagsText ≠ none := by
  intro text moved facts
  have hfact : facts[0]?.any (fun r => r.kind == .legacy && r.tagsText == none &&
      (Extraction.ofNote moved none "location").facts.all fun f =>
        f.kind == .inline && f.spot == r.spot && f.tagsText != none) = true := by decide +kernel
  have hmoved : (Layer.ofFacts (NoteStore.ofList []).notes none ⟨"A.md"⟩ text facts [])[0]?.any
      (fun l => l.marker?.any fun m => m.moveIn text ⟨3, 4⟩ == .ok moved) = true := by
    decide +kernel
  obtain ⟨r, hr, hcheck⟩ := (Option.any_eq_true ..).1 hfact
  obtain ⟨l, hl, hmoved⟩ := (Option.any_eq_true ..).1 hmoved
  simp only [Bool.and_eq_true, beq_iff_eq, List.all_eq_true, bne_iff_ne] at hcheck
  obtain ⟨⟨hkind, htags⟩, hfacts⟩ := hcheck
  cases l with
  | marker m =>
    exact ⟨r, m, hr, hkind, htags, by decide +kernel, ⟨by decide +kernel, by decide +kernel⟩, hl,
      beq_iff_eq.1 hmoved, fun f hf _ _ => (hfacts f hf).2⟩
  | _ => cases hmoved

end Gazetteer
