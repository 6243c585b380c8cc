import Gazetteer.Proofs.Index.Reconciliation
import Gazetteer.Proofs.Layer.Building
import Gazetteer.Proofs.Layer.Facts
import Gazetteer.Proofs.Note.Spots

/-!
# Whether ids tell layers apart

An id is a file name, the content and the position of a layer, one behind the other with nothing in
between, and the content of a marker and every position are numbers. So the last digits of the
content of one layer can be the first ones of the position of another one: the ids run together
(`Layer.RunsInto`). This is the only way in which two layers of a note come under one id, and it
takes a content that is longer than one further behind in the text.
-/

namespace Gazetteer

variable {notes : Notes} {rules : Option DisplayRules} {source : SourceRef} {text : List Char}
  {fileTags : List String} {f f' : Fact} {l l' : Layer} {i i' : LayerInfo} {m n o o' : Nat}

/-! ## Numbers one behind the other -/

theorem toDigits_injective (h : Nat.toDigits 10 m = Nat.toDigits 10 n) : m = n := by
  rw [← Nat.ofDigitChars_ten_toDigits (n := m), h, Nat.ofDigitChars_ten_toDigits]

theorem length_toDigits_le (h : m ≤ n) :
    (Nat.toDigits 10 m).length ≤ (Nat.toDigits 10 n).length := by
  have hn : n < 10 ^ (Nat.toDigits 10 n).length :=
    (Nat.length_toDigits_le_iff (by decide) Nat.length_toDigits_pos).1 (Nat.le_refl _)
  exact (Nat.length_toDigits_le_iff (by decide) Nat.length_toDigits_pos).2 (Nat.lt_of_le_of_lt h hn)

/-- Two numbers, one behind the other, do not end in two others of which the first one is greater
and the second one not smaller. -/
theorem toDigits_ne_append (ho : o < o') (hn : m ≤ n) (cs : List Char) :
    Nat.toDigits 10 o ++ Nat.toDigits 10 m ≠
      cs ++ (Nat.toDigits 10 o' ++ Nat.toDigits 10 n) := by
  intro h
  have hlen := congrArg List.length h
  have hfirst := length_toDigits_le (Nat.le_of_lt ho)
  have hsecond := length_toDigits_le hn
  simp only [List.length_append] at hlen
  -- neither number is longer than the one it would have to end in, so nothing is left for `cs`
  have hcs : cs = [] := List.eq_nil_of_length_eq_zero (by omega)
  rw [hcs, List.nil_append] at h
  obtain ⟨heq, -⟩ := List.append_inj h (by omega)
  exact Nat.ne_of_lt ho (toDigits_injective heq)

namespace LayerInfo

theorem Describes.of_spot {spot : Spot} (h : i.Describes source text f) (hs : f.spot = some spot) :
    i.offset = some spot.offset ∧ i.line = some ((text.take spot.offset).count '\n') := by
  rw [h.offset, h.line, hs]
  exact ⟨rfl, rfl⟩

theorem Describes.of_none (h : i.Describes source text f) (hs : f.spot = none) :
    i.offset = none ∧ i.line = none := by
  rw [h.offset, h.line, hs]
  exact ⟨rfl, rfl⟩

theorem toList_positionText (ho : i.offset = some o) (hn : i.line = some n) :
    i.positionText.toList = Nat.toDigits 10 o ++ Nat.toDigits 10 n := by
  unfold positionText
  rw [ho, hn]
  simp

/-- With positions behind them, two texts come to the same if the digits that one of them has more
are those that the position behind the other one has more. -/
theorem append_positionText_eq_iff {c c' : String} (ho : i.offset = some o) (hm : i.line = some m)
    (ho' : i'.offset = some o') (hn : i'.line = some n) (hlt : o < o') (hle : m ≤ n) :
    c ++ i.positionText = c' ++ i'.positionText ↔
      ∃ digits, digits ≠ "" ∧ c = c' ++ digits ∧ i'.positionText = digits ++ i.positionText := by
  constructor
  · intro h
    have hchars := congrArg String.toList h
    simp only [String.toList_append, toList_positionText ho hm,
      toList_positionText ho' hn] at hchars
    -- one of the two contents begins with the other one, and only `c` can be the longer one
    rcases List.append_eq_append_iff.1 hchars with ⟨cs, -, hpos⟩ | ⟨cs, hc, hpos⟩
    · exact absurd hpos (toDigits_ne_append hlt hle cs)
    · refine ⟨String.ofList cs, ?_, ?_, ?_⟩
      · intro hnil
        rw [← String.toList_inj, String.toList_ofList] at hnil
        subst hnil
        exact toDigits_ne_append hlt hle [] hpos.symm
      · rw [← String.toList_inj, String.toList_append, String.toList_ofList, hc]
      · rw [← String.toList_inj, String.toList_append, String.toList_ofList,
          toList_positionText ho hm, toList_positionText ho' hn, hpos]
  · rintro ⟨digits, -, rfl, hpos⟩
    rw [hpos, String.append_assoc]

/-- A position in a text ends in a digit, that of a whole note does not. -/
theorem append_positionText_ne (ho : i.offset = some o) (hn : i.line = some n)
    (ho' : i'.offset = none) (hn' : i'.line = none) (c c' : String) :
    c ++ i.positionText ≠ c' ++ i'.positionText := by
  intro h
  have hnone : i'.positionText = "nofilelocnofileline" := by
    unfold positionText
    rw [ho', hn']
    rfl
  have hlast := congrArg (fun s => s.toList.getLast?) h
  have hdigit : (Nat.toDigits 10 n).getLast? ≠ none := by
    rw [ne_eq, List.getLast?_eq_none_iff]
    exact List.ne_nil_of_length_pos Nat.length_toDigits_pos
  obtain ⟨x, hx⟩ := Option.ne_none_iff_exists'.1 hdigit
  have hend : "nofilelocnofileline".toList.getLast? = some 'e' := rfl
  simp only [String.toList_append, toList_positionText ho hn, hnone, List.getLast?_append, hx, hend,
    Option.some_or, Option.some.injEq] at hlast
  have := Nat.isDigit_of_mem_toDigits (by decide) (by decide) (List.mem_of_getLast? hx)
  rw [hlast] at this
  cases this

end LayerInfo

/-! ## What an id is made of -/

namespace Layer

/-- The part of an id that says what a layer shows. -/
def contentText : Layer → String
  | .marker m => m.location.toIdString
  | .geometry g => Digest.ofText g.geometry.toJson.write
  | _ => ""

@[simp] theorem contentText_style (rules : Option DisplayRules) (notes : Notes) (l : Layer) :
    (l.style rules notes).contentText = l.contentText := by
  unfold style
  cases rules with
  | none => rfl
  | some rs => cases l <;> rfl

theorem id_ofPayload (i : LayerInfo) (payload : Payload) :
    (ofPayload i payload).id =
      i.source.name ++ (ofPayload i payload).contentText ++ i.positionText := by
  cases payload <;> rfl

/-- The layer of a fact is under the id that is made of its file name, its content and its
position. -/
structure Labels (l : Layer) (source : SourceRef) (text : List Char) (f : Fact) (i : LayerInfo) :
    Prop where
  info : l.info? = some i
  describes : i.Describes source text f
  id : l.id = source.name ++ (l.contentText ++ i.positionText)

theorem exists_labels {outline : Option Outline} (hf : f.HasPlaceIn text)
    (hl : (infoOf source outline text fileTags f).map
      (fun i => (ofPayload i f.payload).style rules notes) = some l) :
    ∃ i, l.Labels source text f i := by
  obtain ⟨i, hi, hdescribes⟩ := exists_infoOf_eq_some source outline fileTags hf
  rw [hi, Option.map_some, Option.some.injEq] at hl
  subst hl
  refine ⟨{ i with id := (ofPayload i f.payload).id }, ?_, hdescribes.withId _, ?_⟩
  · rw [info?_style, info?_ofPayload]
  · rw [id_style, contentText_style, id_ofPayload, hdescribes.source, String.append_assoc]
    rfl

/-! ## Ids that run together -/

/-- The last digits of the content of a layer are the first ones of the position of another layer,
which stands further behind. -/
def RunsInto (l l' : Layer) : Prop :=
  ∃ i i' o o' digits, l.info? = some i ∧ l'.info? = some i' ∧
    i.offset = some o ∧ i'.offset = some o' ∧ o < o' ∧ digits ≠ "" ∧
      l.contentText = l'.contentText ++ digits ∧ i'.positionText = digits ++ i.positionText

/-- Ids that run together take a content that is longer than the one further behind. -/
theorem RunsInto.length_lt (h : l.RunsInto l') :
    l'.contentText.length < l.contentText.length := by
  obtain ⟨-, -, -, -, digits, -, -, -, -, -, hne, hcontent, -⟩ := h
  have hpos : 0 < digits.length := by
    rw [Nat.pos_iff_ne_zero, ne_eq, String.length_eq_zero_iff]
    exact hne
  rw [hcontent, String.length_append]
  omega

theorem not_runsInto_of_length_eq (h : l.contentText.length = l'.contentText.length) :
    ¬l.RunsInto l' := fun hruns =>
  Nat.ne_of_gt hruns.length_lt h

/-- Of two layers in the text the one in front can run into the other one. -/
theorem Labels.id_eq_iff_of_lt (h : l.Labels source text f i) (h' : l'.Labels source text f' i')
    {spot spot' : Spot} (hs : f.spot = some spot) (hs' : f'.spot = some spot')
    (hlt : spot.offset < spot'.offset) : l.id = l'.id ↔ l.RunsInto l' := by
  obtain ⟨ho, hm⟩ := h.describes.of_spot hs
  obtain ⟨ho', hn⟩ := h'.describes.of_spot hs'
  have hle : (text.take spot.offset).count '\n' ≤ (text.take spot'.offset).count '\n' :=
    (List.take_sublist_take_left (Nat.le_of_lt hlt)).count_le _
  rw [h.id, h'.id, String.append_right_inj,
    LayerInfo.append_positionText_eq_iff ho hm ho' hn hlt hle]
  constructor
  · rintro ⟨digits, hne, hcontent, hpos⟩
    exact ⟨i, i', _, _, digits, h.info, h'.info, ho, ho', hlt, hne, hcontent, hpos⟩
  · rintro ⟨j, j', _, _, digits, hj, hj', -, -, -, hne, hcontent, hpos⟩
    rw [h.info, Option.some.injEq] at hj
    rw [h'.info, Option.some.injEq] at hj'
    subst hj hj'
    exact ⟨digits, hne, hcontent, hpos⟩

/-- A layer in the text is never under the id of that of the whole note. -/
theorem Labels.id_ne_of_none (h : l.Labels source text f i) (h' : l'.Labels source text f' i')
    {spot : Spot} (hs : f.spot = some spot) (hs' : f'.spot = none) : l.id ≠ l'.id := by
  obtain ⟨ho, hn⟩ := h.describes.of_spot hs
  obtain ⟨ho', hn'⟩ := h'.describes.of_none hs'
  rw [h.id, h'.id, ne_eq, String.append_right_inj]
  exact LayerInfo.append_positionText_ne ho hn ho' hn' _ _

/-- Only layers in the text run into one another, the one in front into the other one. -/
theorem RunsInto.exists_spots (h : l.RunsInto l') (hl : l.Labels source text f i)
    (hl' : l'.Labels source text f' i') :
    ∃ spot spot', f.spot = some spot ∧ f'.spot = some spot' ∧ spot.offset < spot'.offset := by
  obtain ⟨j, j', o, o', -, hj, hj', ho, ho', hlt, -⟩ := h
  rw [hl.info, Option.some.injEq] at hj
  rw [hl'.info, Option.some.injEq] at hj'
  rw [← hj, hl.describes.offset] at ho
  rw [← hj', hl'.describes.offset] at ho'
  obtain ⟨spot, hs, rfl⟩ := Option.map_eq_some_iff.1 ho
  obtain ⟨spot', hs', rfl⟩ := Option.map_eq_some_iff.1 ho'
  exact ⟨spot, spot', hs, hs', hlt⟩

/-- Layers of facts at different places are under one id if and only if their ids run together. -/
theorem Labels.id_eq_iff (h : l.Labels source text f i) (h' : l'.Labels source text f' i')
    (hapart : Extraction.Apart f f') : l.id = l'.id ↔ l.RunsInto l' ∨ l'.RunsInto l := by
  constructor
  · intro hid
    cases hs : f.spot with
    | none =>
      cases hs' : f'.spot with
      | none => exact absurd (by rw [hs, hs']) hapart
      | some spot' => exact absurd hid.symm (h'.id_ne_of_none h hs' hs)
    | some spot =>
      cases hs' : f'.spot with
      | none => exact absurd hid (h.id_ne_of_none h' hs hs')
      | some spot' =>
        rcases Nat.lt_trichotomy spot.offset spot'.offset with hlt | he | hlt
        · exact Or.inl ((h.id_eq_iff_of_lt h' hs hs' hlt).1 hid)
        · exact absurd (by rw [hs, hs', Option.map_some, Option.map_some, he]) hapart
        · exact Or.inr ((h'.id_eq_iff_of_lt h hs' hs hlt).1 hid.symm)
  · rintro (hruns | hruns)
    · obtain ⟨spot, spot', hs, hs', hlt⟩ := hruns.exists_spots h h'
      exact (h.id_eq_iff_of_lt h' hs hs' hlt).2 hruns
    · obtain ⟨spot', spot, hs', hs, hlt⟩ := hruns.exists_spots h' h
      exact ((h'.id_eq_iff_of_lt h hs' hs hlt).2 hruns).symm

theorem pairwise_ofFacts {fs : List Fact} (hplace : ∀ f ∈ fs, f.HasPlaceIn text)
    (hapart : fs.Pairwise Extraction.Apart) (notes : Notes) (rules : Option DisplayRules)
    (source : SourceRef) (fileTags : List String) :
    (ofFacts notes rules source text fs fileTags).Pairwise
      fun l l' => l.id = l'.id ↔ l.RunsInto l' ∨ l'.RunsInto l := by
  unfold ofFacts
  rw [List.pairwise_filterMap]
  refine hapart.imp_of_mem fun {f f'} hf hf' hff' l hl l' hl' => ?_
  obtain ⟨i, h⟩ := exists_labels (hplace f hf) hl
  obtain ⟨i', h'⟩ := exists_labels (hplace f' hf') hl'
  exact h.id_eq_iff h' hff'

/-- So two layers of a note are under one id if and only if their ids run together. -/
theorem pairwise_ofSource {s : LayerSettings} {ls : List Layer} {ds : List DroppedFact}
    (h : ofSource notes s source = .ok (ls, ds)) :
    ls.Pairwise fun l l' => l.id = l'.id ↔ l.RunsInto l' ∨ l'.RunsInto l := by
  obtain ⟨note, -, hbuilt⟩ := exists_of_bind_eq_ok h
  cases hbuilt
  exact pairwise_ofFacts (fun f hf => hasPlaceIn_of_mem_ofNote hf) (Extraction.pairwise_apart ..)
    notes s.rules source note.tags

theorem nodup_ids_iff_of_pairwise {ls : List Layer}
    (h : ls.Pairwise fun l l' => l.id = l'.id ↔ l.RunsInto l' ∨ l'.RunsInto l) :
    (ls.map Layer.id).Nodup ↔ ls.Pairwise fun l l' => ¬l.RunsInto l' ∧ ¬l'.RunsInto l := by
  rw [List.Nodup, List.pairwise_map]
  constructor
  · intro hne
    refine hne.imp₂ (fun l l' hid hiff => ?_) h
    rw [ne_eq, hiff, not_or] at hid
    exact hid
  · intro hno
    refine hno.imp₂ (fun l l' hruns hiff => ?_) h
    rw [ne_eq, hiff, not_or]
    exact hruns

theorem length_contentText_of_geometry (h : l.kind = .geometry) : l.contentText.length = 16 := by
  cases l with
  | geometry g => exact Digest.length_ofText _
  | _ => cases h

/-- **When two layers of a note come under one id.** Whatever the text of a note, its front matter
and the settings are: two of its layers have one id if and only if their ids run together, and the
layers of the note are all added to an index without layers if and only if no ids do. Two geometries
never come under one id, nor do layers whose contents are written with the same number of
characters; and whichever ids run together, each of them is added. -/
theorem ids_of_source {s : LayerSettings} {ls : List Layer} {ds : List DroppedFact}
    (h : ofSource notes s source = .ok (ls, ds)) :
    let added := (LayerIndex.empty.reconcile ls).added
    ls.Pairwise (fun l l' => l.id = l'.id ↔ l.RunsInto l' ∨ l'.RunsInto l) ∧
      ((ls.map Layer.id).Nodup ↔ ls.Pairwise fun l l' => ¬l.RunsInto l' ∧ ¬l'.RunsInto l) ∧
      (added = ls ↔ (ls.map Layer.id).Nodup) ∧
      ls.Pairwise (fun l l' => l.kind = .geometry → l'.kind = .geometry → l.id ≠ l'.id) ∧
      ((∀ l ∈ ls, ∀ l' ∈ ls, l.contentText.length = l'.contentText.length) → added = ls) ∧
      ∀ l ∈ ls, ∃ l' ∈ added, l'.id = l.id := by
  intro added
  have hfloat : ∀ l ∈ ls, l.isFloating = false := fun l hl =>
    isFloating_eq_false_iff.2 ⟨source, source?_of_mem_ofSource h hl⟩
  have hpairs := pairwise_ofSource h
  have hnodup := nodup_ids_iff_of_pairwise hpairs
  have hadded : added = ls ↔ (ls.map Layer.id).Nodup := by
    show (LayerIndex.empty.reconcile ls).added = ls ↔ _
    rw [LayerIndex.added_reconcile_empty, distinctLayers_eq_self_iff hfloat]
  refine ⟨hpairs, hnodup, hadded, ?_, fun hlen => ?_, fun l hl => ?_⟩
  · refine hpairs.imp fun {l l'} hiff hl hl' => ?_
    have hlen : l.contentText.length = l'.contentText.length :=
      (length_contentText_of_geometry hl).trans (length_contentText_of_geometry hl').symm
    rw [ne_eq, hiff, not_or]
    exact ⟨not_runsInto_of_length_eq hlen, not_runsInto_of_length_eq hlen.symm⟩
  · rw [hadded, hnodup]
    refine hpairs.imp_of_mem fun {l l'} hl hl' _ => ?_
    exact ⟨not_runsInto_of_length_eq (hlen l hl l' hl'),
      not_runsInto_of_length_eq (hlen l' hl' l hl)⟩
  · show ∃ l' ∈ (LayerIndex.empty.reconcile ls).added, l'.id = l.id
    rw [LayerIndex.added_reconcile_empty]
    exact exists_mem_distinctLayers hl (hfloat l hl) List.not_mem_nil

/-- A note with two places of which both are added. -/
theorem ids_of_source_two_places :
    ∃ ls ds, ofSource (NoteStore.ofList [("A.md", "[a](geo:1,2) [b](geo:3,4)")]).notes {}
        ⟨"A.md"⟩ = .ok (ls, ds) ∧
      ls.length = 2 ∧ (ls.map Layer.id).Nodup ∧ (LayerIndex.empty.reconcile ls).added = ls := by
  have hcheck : (ofSource (NoteStore.ofList [("A.md", "[a](geo:1,2) [b](geo:3,4)")]).notes {}
      ⟨"A.md"⟩).toOption.any (fun built =>
        built.1.length == 2 && built.1.all fun l => l.contentText.length == 2) = true := by
    decide +kernel
  obtain ⟨⟨ls, ds⟩, hbuilt, hcheck⟩ := exists_of_any_toOption hcheck
  dsimp only at hcheck
  obtain ⟨htwo, hlen⟩ := Bool.and_eq_true_iff.1 hcheck
  have hlen : ∀ l ∈ ls, l.contentText.length = 2 := fun l hl =>
    beq_iff_eq.1 (List.all_eq_true.1 hlen l hl)
  obtain ⟨-, -, hadded, -, hequal, -⟩ := ids_of_source hbuilt
  have hall := hequal fun l hl l' hl' => (hlen l hl).trans (hlen l' hl').symm
  exact ⟨ls, ds, hbuilt, beq_iff_eq.1 htwo, hadded.1 hall, hall⟩

/-- A note with a place at `1,12` and one at `1,1` twenty characters further behind: the digit `2`
is the last one of the first place and the first one of the second position. -/
theorem ids_not_distinct :
    ∃ ls ds, ofSource (NoteStore.ofList [("A.md", "[a](geo:1,12)       [b](geo:1,1)")]).notes {}
        ⟨"A.md"⟩ = .ok (ls, ds) ∧
      ¬(ls.map Layer.id).Nodup ∧ (LayerIndex.empty.reconcile ls).added ≠ ls := by
  have hcheck : (ofSource
      (NoteStore.ofList [("A.md", "[a](geo:1,12)       [b](geo:1,1)")]).notes {}
      ⟨"A.md"⟩).toOption.any (fun built => !decide (built.1.map Layer.id).Nodup) = true := by
    decide +kernel
  obtain ⟨⟨ls, ds⟩, hbuilt, hcheck⟩ := exists_of_any_toOption hcheck
  dsimp only at hcheck
  rw [Bool.not_eq_true', decide_eq_false_iff_not] at hcheck
  refine ⟨ls, ds, hbuilt, hcheck, fun hadded => hcheck ?_⟩
  rw [← hadded, LayerIndex.added_reconcile_empty]
  exact nodup_ids_distinctLayers [] ls

end Layer

end Gazetteer
