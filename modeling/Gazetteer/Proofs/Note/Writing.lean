import Gazetteer.Note.FrontMatter
import Gazetteer.Proofs.Note.Rewriting
import Gazetteer.Proofs.Note.Spots
import Gazetteer.Proofs.Pattern.Greedy

/-!
# Places that are written with tags

What is written for a name, a place and tags is read back as just that
(`Extraction.ofNote_writePlace`): the link takes the tag items behind it as far as they go
(`first?_trailingTags_tagItems`), these give the tags back one by one (`inlineTags_tagList`), and
nothing else in the text has the form of a fact.
-/

namespace Gazetteer

namespace Pattern

open Unicode (isBlank)

variable {c : Char} {t v : List Char} {tags : List (List Char)}

/-! ## Tag items -/

/-- The code points of the blanks. -/
def blankCodes : List Nat :=
  List.range' 9 5 ++ [0x20, 0x85, 0xA0, 0x1680] ++ List.range' 0x2000 11 ++
    [0x2028, 0x2029, 0x202F, 0x205F, 0x3000]

theorem mem_blankCodes (h : isBlank c = true) : c.toNat ∈ blankCodes := by
  simp only [isBlank, Bool.or_eq_true, decide_eq_true_eq, beq_iff_eq] at h
  simp only [blankCodes, List.mem_append, List.mem_range'_1, List.mem_cons]
  omega

/-- No blank belongs to a tag. -/
theorem isBlank_of_isTagChar (h : isTagChar c = true) : isBlank c = false := by
  have hcodes : ∀ n ∈ blankCodes, isTagChar (Char.ofNat n) = false := by decide +kernel
  by_contra hblank
  have hnot := hcodes _ (mem_blankCodes (Bool.not_eq_false _ ▸ hblank))
  rw [Char.ofNat_toNat, h] at hnot
  cases hnot

/-- A text that can be the value of a tag item. -/
structure IsTagValue (t : List Char) : Prop where
  ne_nil : t ≠ []
  isTagChar : ∀ c ∈ t, isTagChar c = true

/-- Tag items with these values, a space in front of each. -/
def tagItems (tags : List (List Char)) : List Char :=
  tags.flatMap (" tag:".toList ++ ·)

/-- Tag items without the space in front of the first. -/
def tagList (tags : List (List Char)) : List Char :=
  (tagItems tags).tail

theorem tagList_cons (t : List Char) (tags : List (List Char)) :
    tagList (t :: tags) = "tag:".toList ++ (t ++ tagItems tags) := rfl

theorem exists_tagItems_eq (tags : List (List Char)) :
    ∃ gap, (gap = [] ∧ tags = [] ∨ gap = [' ']) ∧ tagItems tags = gap ++ tagList tags := by
  cases tags with
  | nil => exact ⟨[], Or.inl ⟨rfl, rfl⟩, rfl⟩
  | cons t tags => exact ⟨[' '], Or.inr rfl, rfl⟩

theorem head?_tagItems (tags : List (List Char)) :
    ∀ c ∈ (tagItems tags).head?, isTagChar c = false := by
  cases tags with
  | nil => simp [tagItems]
  | cons t tags =>
    rintro _ ⟨⟩
    decide

theorem head?_tagList (tags : List (List Char)) : ∀ c ∈ (tagList tags).head?, c = 't' := by
  cases tags with
  | nil => simp [tagList, tagItems]
  | cons t tags =>
    rintro _ ⟨⟩
    rfl

/-! ## Reading tag items -/

theorem first?_tagItem (ht : IsTagValue t) (hv : ∀ c ∈ v.head?, isTagChar c = false) :
    tagItem.first? ("tag:".toList ++ (t ++ v)) = some ⟨"tag:".toList ++ t, v, []⟩ :=
  first?_seq (first?_lit "tag:" (t ++ v)) (first?_many1_char ht.ne_nil ht.isTagChar hv)

theorem first?_inlineTag (ht : IsTagValue t) (hv : ∀ c ∈ v.head?, isTagChar c = false) :
    inlineTag.first? ("tag:".toList ++ (t ++ v)) = some ⟨"tag:".toList ++ t, v, [("tag", t)]⟩ :=
  first?_seq (first?_lit "tag:" (t ++ v))
    (first?_group (first?_many1_char ht.ne_nil ht.isTagChar hv) "tag")

/-- A tag item and what separates it from the next one. -/
def tagRound : Pattern := .seq tagItem (many (oneOf " \t,"))

theorem first?_tagRound (ht : IsTagValue t) (tags : List (List Char)) :
    ∃ gap, tagRound.first? (tagList (t :: tags)) =
      some ⟨"tag:".toList ++ t ++ gap, tagList tags, []⟩ ∧ tagItems tags = gap ++ tagList tags := by
  obtain ⟨gap, hgap, htags⟩ := exists_tagItems_eq tags
  have hseparators : (many (oneOf " \t,")).first? (tagItems tags) =
      some ⟨gap, tagList tags, []⟩ := by
    rw [htags]
    refine first?_many_char (fun c hc => ?_) fun c hc => ?_
    · rcases hgap with ⟨rfl, -⟩ | rfl
      · cases hc
      · rw [List.mem_singleton.1 hc]
        decide
    · rw [head?_tagList tags c hc]
      decide
  exact ⟨gap, first?_seq (first?_tagItem ht (head?_tagItems tags)) hseparators, htags⟩

/-- Tag items are read to the end. -/
theorem first?_many_tagRound (htags : ∀ t ∈ tags, IsTagValue t) :
    (many tagRound).first? (tagList tags) = some ⟨tagList tags, [], []⟩ := by
  induction tags with
  | nil => exact first?_many_of_none (by decide)
  | cons t tags ih =>
    obtain ⟨ht, htags⟩ := List.forall_mem_cons.1 htags
    obtain ⟨gap, hround, hgap⟩ := first?_tagRound ht tags
    rw [first?_many_of_some hround (by simp) (ih htags), tagList_cons, hgap]
    simp [Outcome.andThen]

theorem first?_tagRun (ht : IsTagValue t) (htags : ∀ t ∈ tags, IsTagValue t) :
    tagRun.first? (tagList (t :: tags)) =
      some ⟨tagList (t :: tags), [], [("tags", tagList (t :: tags))]⟩ := by
  obtain ⟨gap, hround, hgap⟩ := first?_tagRound ht tags
  have hall : (many1 tagRound).first? (tagList (t :: tags)) =
      some ⟨tagList (t :: tags), [], []⟩ := by
    rw [many1, ← many, first?_seq hround (first?_many_tagRound htags), tagList_cons, hgap]
    simp [Outcome.andThen]
  exact first?_group hall "tags"

/-- What tag items come to behind a link. -/
def tagsOutcome (tags : List (List Char)) : Outcome :=
  ⟨tagItems tags, [], if tags = [] then [] else [("tags", tagList tags)]⟩

theorem first?_trailingTags_tagItems (htags : ∀ t ∈ tags, IsTagValue t) :
    trailingTags.first? (tagItems tags) = some (tagsOutcome tags) := by
  cases tags with
  | nil => exact first?_trailingTags_iff.2 (Or.inr ⟨by decide, rfl⟩)
  | cons t tags =>
    obtain ⟨ht, htags⟩ := List.forall_mem_cons.1 htags
    refine first?_trailingTags_iff.2 (Or.inl ⟨[' '], tagList (t :: tags), [], ?_, ?_, ?_, rfl⟩)
    · simp [isGap]
    · rw [List.append_nil]
      exact first?_tagRun ht htags
    · rw [List.append_nil]
      rfl

theorem tags?_tagsOutcome (tags : List (List Char)) :
    (tagsOutcome tags).tags? = if tags = [] then none else some (tagList tags) := by
  unfold tagsOutcome Outcome.tags?
  split <;> rfl

/-- The values of tag items are found one by one. -/
theorem map_group_occurrencesFrom (htags : ∀ t ∈ tags, IsTagValue t) (a : List Char) :
    (inlineTag.occurrencesFrom a.reverse a.length 0 (tagList tags)).map (·.group "tag") = tags := by
  induction tags generalizing a with
  | nil => rfl
  | cons t tags ih =>
    obtain ⟨ht, htags⟩ := List.forall_mem_cons.1 htags
    rw [tagList_cons, occurrencesFrom_of_some rfl (first?_inlineTag ht (head?_tagItems tags))
      (by simp) a, List.map_cons]
    refine congrArg (t :: ·) ?_
    simp only
    obtain ⟨gap, ⟨rfl, rfl⟩ | rfl, hgap⟩ := exists_tagItems_eq tags
    · rfl
    · -- the space in front of the next item is passed over
      have hspace : inlineTag.first? (' ' :: tagList tags) = none :=
        first?_seq_eq_none
          (first?_lit_eq_none fun h => absurd (List.cons_prefix_cons.1 h).1 (by decide))
      rw [hgap, List.singleton_append, occurrencesFrom_of_none rfl hspace]
      exact ih htags _

theorem inlineTags_tagList (htags : ∀ t ∈ tags, IsTagValue t) :
    inlineTags (tagList tags) = tags.map fun t => String.ofList ('#' :: t) := by
  have hvalues := map_group_occurrencesFrom htags []
  unfold inlineTags occurrences
  conv_rhs => rw [← hvalues, List.map_map]
  rfl

/-- There is no blank at either end of tag items. -/
theorem trim_tagList (htags : ∀ t ∈ tags, IsTagValue t) :
    Unicode.trim (tagList tags) = tagList tags := by
  refine Unicode.trim_eq_self (fun c hc => ?_) fun c hc => ?_
  · rw [head?_tagList tags c hc]
    decide
  · have hlast : ∃ w t, t ∈ tags ∧ tagList tags = w ++ t := by
      rcases List.eq_nil_or_concat tags with rfl | ⟨tags, t, rfl⟩
      · cases hc
      · refine ⟨(tagItems tags ++ " tag:".toList).tail, t, by simp, ?_⟩
        rw [← List.tail_append_of_ne_nil (by simp)]
        simp [tagList, tagItems]
    obtain ⟨w, t, ht, heq⟩ := hlast
    have ht := htags t ht
    rw [heq, List.reverse_append, List.head?_append_of_ne_nil _ (by simpa using ht.ne_nil)] at hc
    exact isBlank_of_isTagChar (ht.isTagChar c (List.mem_reverse.1 (List.mem_of_mem_head? hc)))

end Pattern

open Pattern Extraction

variable {name : List Char} {p : LatLng} {tags : List (List Char)} {c : Char} {text : List Char}

/-! ## Reading what is written -/

theorem FrontMatter.read_of_bracket (text : List Char) :
    FrontMatter.read ('[' :: text) = none := rfl

/-- Without code marks there are no facts but those of links. -/
theorem Extraction.ofNote_of_not_mem (h : codeMark ∉ text) (key : String) :
    ofNote text none key = ofKind .inline text := by
  have hlegacy : matchesOf .legacy text = [] :=
    matchesOf_eq_nil (c := codeMark) (by simp [FactKind.opening]) h
  have hgeometry : matchesOf .geometryBlock text = [] :=
    matchesOf_eq_nil (c := codeMark) (by simp [FactKind.opening]) h
  have hnil : ∀ {kind : FactKind}, matchesOf kind text = [] → ofKind kind text = ⟨[], []⟩ :=
    fun h => by
      unfold ofKind
      rw [h]
      rfl
  rw [ofNote_eq, hnil hlegacy, hnil hgeometry]
  cases ofKind .inline text with
  | mk facts dropped =>
    show Extraction.mk ([] ++ facts ++ [] ++ []) ([] ++ dropped ++ [] ++ []) = _
    simp only [List.nil_append, List.append_nil]

/-- A character that may stand in a name that is read back as it is written. -/
def isPlainNameChar (c : Char) : Bool :=
  isNameChar c && c != codeMark

theorem not_mem_tagItems (htags : ∀ t ∈ tags, IsTagValue t) : codeMark ∉ tagItems tags := by
  intro h
  obtain ⟨t, ht, hin⟩ := List.mem_flatMap.1 h
  rcases List.mem_append.1 hin with hin | hin
  · exact absurd hin (by decide)
  · exact absurd ((htags t ht).isTagChar _ hin) (by decide)

theorem LinkText.not_mem_codeMark {k : LinkText} (hname : codeMark ∉ k.name)
    (htags : ∀ t ∈ tags, IsTagValue t) : codeMark ∉ k.text ++ tagItems tags := by
  have htarget : codeMark ∉ k.target := by
    intro h
    rcases mem_target h with h | h | h <;> exact absurd h (by decide)
  rw [text_eq, List.cons_append]
  simp only [List.mem_cons, List.mem_append, not_or]
  exact ⟨by decide, ⟨hname, htarget⟩, not_mem_tagItems htags⟩

/-- The text of tags of a link with tag items behind it. -/
theorem groupText_of_tagsOutcome {m : Match} (htags : ∀ t ∈ tags, IsTagValue t)
    (h : m.group? "tags" = (tagsOutcome tags).tags?) :
    groupText m "tags" = if tags = [] then none else some (String.ofList (tagList tags)) := by
  rw [tags?_tagsOutcome] at h
  split
  · rename_i hnil
    exact groupText_eq_none (by rw [h, if_pos hnil])
  · rename_i hcons
    rw [if_neg hcons] at h
    obtain ⟨t, tags, rfl⟩ := List.exists_cons_of_ne_nil hcons
    rw [groupText_eq h, trim_tagList htags, if_neg (by simp [tagList_cons])]

/-- A link that is all of a text, with tag items behind it, has one match. -/
theorem LinkText.ofKind_text (k : LinkText) (htags : ∀ t ∈ tags, IsTagValue t) :
    ofKind .inline (k.text ++ tagItems tags) =
      ofList [found .inline (k.toMatch [] (tagsOutcome tags))] := by
  have hfirst : inlineLocation.first? (k.text ++ tagItems tags) =
      some ((k.outcome (tagItems tags)).andThen (tagsOutcome tags)) := by
    rw [first?_inlineLocation, first?_trailingTags_tagItems htags, Option.map_some]
  have hne : ((k.outcome (tagItems tags)).andThen (tagsOutcome tags)).text ≠ [] := by
    simp [Outcome.andThen, outcome, text_eq]
  have hoccurrences : inlineLocation.occurrences (k.text ++ tagItems tags) =
      [k.toMatch [] (tagsOutcome tags)] := occurrencesFrom_of_some rfl hfirst hne []
  show ofList ((inlineLocation.occurrences _).map _) = _
  rw [hoccurrences, List.map_singleton]

/-- **A place is read as it is written.** The text of a link with a name, a place and tag items
behind it holds one fact, at its start, and nothing is dropped: the fact has the place, the name
without the blanks around it, if anything is left, and a text of tags that gives the tags back in
their order. The name is any text without a closing bracket, line feed or code mark, the numbers of
the place are any that read back as they are written. -/
theorem Extraction.ofNote_writePlace (key : String)
    (hname : ∀ c ∈ name, isPlainNameChar c = true) (hp : p.IsPlace) (hback : p.ReadsBack)
    (htags : ∀ t ∈ tags, IsTagValue t) :
    let text := writePlace (String.ofList name) p (tagItems tags)
    ∃ f, (ofNote text (FrontMatter.read text) key).facts = [f] ∧
      (ofNote text (FrontMatter.read text) key).dropped = [] ∧
      f.kind = .inline ∧ f.spot = some ⟨0, 0⟩ ∧ f.text = text ∧ f.payload = .place p ∧
      f.displayName =
        (if Unicode.trim name = [] then none else some (String.ofList (Unicode.trim name))) ∧
      (f.tagsText = none ↔ tags = []) ∧
      inlineTags (f.tagsText.getD "").toList = tags.map fun t => String.ofList ('#' :: t) := by
  intro text
  have hname' : ∀ c ∈ name, isNameChar c = true := fun c hc =>
    (Bool.and_eq_true_iff.1 (hname c hc)).1
  obtain ⟨k, hk⟩ : ∃ k, k = LinkText.ofPlace name p hname' hp hback := ⟨_, rfl⟩
  have hkname : k.name = name := congrArg LinkText.name hk
  have htext : text = k.text ++ tagItems tags :=
    hk ▸ LinkText.writePlace_eq String.toList_ofList (tagItems tags)
  have hmark : codeMark ∉ text := by
    rw [htext]
    exact LinkText.not_mem_codeMark (fun h => absurd (hname _ (hkname ▸ h)) (by decide)) htags
  have hread : FrontMatter.read text = none := by
    rw [htext, LinkText.text_eq, List.cons_append]
    exact FrontMatter.read_of_bracket _
  -- the one match of the text, and its fact
  have htrailing := first?_trailingTags_tagItems htags
  have hfound : (found .inline ((LinkText.ofPlace name p hname' hp hback).toMatch [] _)).getLeft? =
      _ := LinkText.getLeft?_found_ofPlace htrailing []
  rw [← hk] at hfound
  obtain ⟨hgroup, htagsGroup, -, -⟩ := k.group?_toMatch htrailing []
  have htagsText := groupText_of_tagsOutcome htags htagsGroup
  rw [hread, ofNote_of_not_mem hmark, htext, k.ofKind_text htags,
    Sum.getLeft?_eq_some_iff.1 hfound]
  refine ⟨_, rfl, rfl, rfl, rfl, rfl, rfl, hkname ▸ groupText_eq hgroup, ?_, ?_⟩
  · simp [htagsText]
  · by_cases hnil : tags = []
    · subst hnil
      rw [htagsText]
      rfl
    · rw [htagsText, if_neg hnil, Option.getD_some, String.toList_ofList, inlineTags_tagList htags]

/-- Brackets and tag items in the name, and values that look like the mark of a tag, mislead
nobody. -/
theorem Extraction.ofNote_writePlace_of_tags :
    let name := " a [tag:x ".toList
    let tags := ["tag".toList, "é/b-1".toList]
    let text := "[ a [tag:x ](geo:48.85,-0.5) tag:tag tag:é/b-1".toList
    (∀ c ∈ name, isPlainNameChar c = true) ∧ LatLng.IsPlace ⟨48.85, -0.5⟩ ∧
      LatLng.ReadsBack ⟨48.85, -0.5⟩ ∧ (∀ t ∈ tags, IsTagValue t) ∧
      writePlace (String.ofList name) ⟨48.85, -0.5⟩ (tagItems tags) = text ∧
      ∃ f, (ofNote text (FrontMatter.read text) "location").facts = [f] ∧
        (ofNote text (FrontMatter.read text) "location").dropped = [] ∧
        f.payload = .place ⟨48.85, -0.5⟩ ∧ f.displayName = some "a [tag:x" ∧
        inlineTags (f.tagsText.getD "").toList = ["#tag", "#é/b-1"] := by
  intro name tags text
  have hname : ∀ c ∈ name, isPlainNameChar c = true := List.all_eq_true.1 (by decide)
  have hplace : LatLng.IsPlace ⟨48.85, -0.5⟩ := by decide +kernel
  have hback : LatLng.ReadsBack ⟨48.85, -0.5⟩ := ⟨by decide +kernel, by decide +kernel⟩
  have htags : ∀ t ∈ tags, IsTagValue t := by
    have hchars : ∀ t ∈ tags, t ≠ [] ∧ t.all isTagChar = true := by decide
    exact fun t ht => ⟨(hchars t ht).1, List.all_eq_true.1 (hchars t ht).2⟩
  have htext : writePlace (String.ofList name) ⟨48.85, -0.5⟩ (tagItems tags) = text := by
    decide +kernel
  have h := ofNote_writePlace "location" hname hplace hback htags
  simp only [htext] at h
  obtain ⟨f, hfacts, hdropped, -, -, -, hpayload, hdisplay, -, hinline⟩ := h
  exact ⟨hname, hplace, hback, htags, htext, f, hfacts, hdropped, hpayload, hdisplay, hinline⟩

end Gazetteer
