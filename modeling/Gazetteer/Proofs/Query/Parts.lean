import Gazetteer.Proofs.Query.Quotes

/-!
# The parts of a query

Where it does not lie between quotes, a text is made up of blanks, parentheses, literals, atoms and
runs of other characters. `Part.StandsBetween` says where each of them stands, by what is in front
of it and behind it. At one place of a text stands at most one part (`Part.StandsBetween.unique`),
and no part starts inside another one (`Part.StandsBetween.not_isBoundary_inside`).
-/

namespace Gazetteer.Query

variable {before after cs content key value : List Char} {c : Char}

/-! ## Places in a text -/

/-- A place that does not lie between quotes, given what is in front of it. -/
def IsOutside (before : List Char) : Prop := quotes before % 2 = 0

/-- A place at the start of a text or behind a delimiter. -/
def BehindDelimiter (before : List Char) : Prop :=
  ∀ c, before.getLast? = some c → isDelimiter c = true

/-- A place at the end of a text or in front of a delimiter. -/
def BeforeDelimiter (after : List Char) : Prop :=
  ∀ c, after.head? = some c → isDelimiter c = true

/-- A place where a word starts if a character of words follows. -/
structure StartsWord (before : List Char) : Prop where
  outside : IsOutside before
  delimiter : BehindDelimiter before

/-- The characters of a key. -/
structure IsKey (key : List Char) : Prop where
  ne_nil : key ≠ []
  chars : ∀ c ∈ key, isKeyChar c = true

/-- A place behind the colon of an atom. -/
def AwaitsValue (before : List Char) : Prop :=
  ∃ front key, before = front ++ (key ++ [':']) ∧ StartsWord front ∧ IsKey key

/-- A text that starts with a key and a colon. -/
def StartsAtom (cs : List Char) : Prop :=
  ∃ key value, cs = key ++ ':' :: value ∧ IsKey key

/-! ## Parts -/

/-- A part of a query. -/
inductive Part where
  | blank (c : Char)
  | open
  | close
  /-- A text between quotes that is not the value of an atom. -/
  | literal (content : List Char)
  | atom (key value : List Char)
  /-- An atom with its value between quotes. -/
  | quotedAtom (key value : List Char)
  /-- A word that is no atom. -/
  | run (chars : List Char)
  deriving DecidableEq, Repr

namespace Part

/-- The text of a part. -/
def text : Part → List Char
  | blank c => [c]
  | «open» => ['(']
  | close => [')']
  | literal content => quoted content
  | atom key value => key ++ ':' :: value
  | quotedAtom key value => key ++ ':' :: quoted value
  | run chars => chars

/-- The token that a part is read as. -/
def token? : Part → Option Token
  | blank _ => none
  | «open» => some .open
  | close => some .close
  | literal content => some (.word (String.ofList content))
  | atom key value => some (.word (String.ofList (key ++ ':' :: value)))
  | quotedAtom key value => some (.word (String.ofList (key ++ ':' :: value)))
  | run chars => some (.ofWord chars)

/-- Where a part stands. A literal does not stand where a value is awaited, and an atom and a run
reach from the start of a word to its end. -/
inductive StandsBetween (before after : List Char) : Part → Prop where
  | blank {c : Char} (hout : IsOutside before) (hc : Unicode.isBlank c = true) :
    StandsBetween before after (.blank c)
  | open (hout : IsOutside before) : StandsBetween before after .open
  | close (hout : IsOutside before) : StandsBetween before after .close
  | literal {content : List Char} (hout : IsOutside before) (hvalue : ¬AwaitsValue before)
    (hcontent : '"' ∉ content) : StandsBetween before after (.literal content)
  | atom {key value : List Char} (hstart : StartsWord before) (hkey : IsKey key)
    (hvalue : ∀ c ∈ value, isWordChar c = true) (hend : BeforeDelimiter after)
    (hempty : value = [] → after.head? ≠ some '"') : StandsBetween before after (.atom key value)
  | quotedAtom {key value : List Char} (hstart : StartsWord before) (hkey : IsKey key)
    (hvalue : '"' ∉ value) : StandsBetween before after (.quotedAtom key value)
  | run {chars : List Char} (hstart : StartsWord before) (hne : chars ≠ [])
    (hchars : ∀ c ∈ chars, isWordChar c = true) (hend : BeforeDelimiter after)
    (hatom : ¬StartsAtom chars) : StandsBetween before after (.run chars)

end Part

/-! ## Keys -/

theorem isWordChar_of_isKeyChar (h : isKeyChar c = true) : isWordChar c = true := by
  cases hc : isWordChar c with
  | true => rfl
  | false =>
    rw [isKeyChar_of_isDelimiter (isWordChar_eq_false_iff.1 hc)] at h
    cases h

theorem IsKey.word (h : IsKey key) : ∀ c ∈ key, isWordChar c = true :=
  fun c hc => isWordChar_of_isKeyChar (h.chars c hc)

theorem isWordChar_atom (hkey : IsKey key) (hvalue : ∀ c ∈ value, isWordChar c = true) :
    ∀ c ∈ key ++ ':' :: value, isWordChar c = true := by
  intro c hc
  rcases List.mem_append.1 hc with hc | hc
  · exact hkey.word c hc
  · rcases List.mem_cons.1 hc with rfl | hc
    · decide
    · exact hvalue c hc

theorem IsKey.word_colon (h : IsKey key) : ∀ c ∈ key ++ [':'], isWordChar c = true :=
  isWordChar_atom h fun _ hc => absurd hc List.not_mem_nil

theorem takeWhile_key (hkey : IsKey key) (text : List Char) :
    (key ++ ':' :: text).takeWhile isKeyChar = key := by
  refine takeWhile_run hkey.chars ?_
  rintro c ⟨⟩
  decide +kernel

theorem drop_key (key value : List Char) : (key ++ ':' :: value).drop (key.length + 1) = value := by
  rw [← List.drop_drop, List.drop_left, List.drop_one, List.tail_cons]

theorem eq_of_key_eq {key' value' : List Char} (hkey : IsKey key) (hkey' : IsKey key')
    (h : key ++ ':' :: value = key' ++ ':' :: value') : key = key' ∧ value = value' := by
  have hkeys : key = key' := by rw [← takeWhile_key hkey value, h, takeWhile_key hkey']
  subst hkeys
  exact ⟨rfl, (List.cons.inj (List.append_cancel_left h)).2⟩

/-- What is read as an atom starts with a key, a colon and a value. -/
theorem exists_key_of_readAtom {rest : List Char} (h : readAtom cs = some (content, rest)) :
    ∃ key text, IsKey key ∧ cs = key ++ ':' :: text ∧
      content = key ++ ':' :: (readValue text).1 ∧ rest = (readValue text).2 := by
  unfold readAtom at h
  split at h
  · rename_i k ks text hkey hdrop
    cases h
    refine ⟨k :: ks, text, ⟨List.cons_ne_nil _ _, fun c hc => ?_⟩, ?_, rfl, rfl⟩
    · rw [← hkey] at hc
      exact List.mem_takeWhile_imp hc
    · rw [← hkey, ← hdrop, List.takeWhile_append_dropWhile]
  · cases h

theorem beforeDelimiter_nil : BeforeDelimiter [] := by
  rintro c ⟨⟩

/-- Characters of words in front of a word are at its start. -/
theorem exists_of_append_eq {w x chars : List Char} (hw : ∀ c ∈ w, isWordChar c = true)
    (hend : BeforeDelimiter after) (h : w ++ x = chars ++ after) :
    ∃ v, chars = w ++ v ∧ x = v ++ after := by
  rcases List.append_eq_append_iff.1 h with ⟨v, hchars, hx⟩ | ⟨v, rfl, rfl⟩
  · exact ⟨v, hchars, hx⟩
  · cases v with
    | nil => exact ⟨[], by simp, rfl⟩
    | cons d v =>
      have hd := hw d (by simp)
      rw [isWordChar, hend d rfl] at hd
      cases hd

theorem readAtom_eq_none (h : ¬StartsAtom cs) (hend : BeforeDelimiter after) :
    readAtom (cs ++ after) = none := by
  cases hread : readAtom (cs ++ after) with
  | none => rfl
  | some r =>
    obtain ⟨content, rest⟩ := r
    obtain ⟨key, text, hkey, htext, -, -⟩ := exists_key_of_readAtom hread
    have hsplit : (key ++ [':']) ++ text = cs ++ after := by simp [htext]
    obtain ⟨v, hv, -⟩ := exists_of_append_eq hkey.word_colon hend hsplit
    exact absurd ⟨key, v, by simp [hv], hkey⟩ h

theorem readAtom_text (hkey : IsKey key) (hvalue : ∀ c ∈ value, isWordChar c = true)
    (hend : BeforeDelimiter after) (hempty : value = [] → after.head? ≠ some '"') :
    readAtom ((key ++ ':' :: value) ++ after) = some (key ++ ':' :: value, after) := by
  rw [List.append_assoc, List.cons_append, readAtom_key hkey.ne_nil hkey.chars,
    readValue_bare hvalue hend hempty]

theorem readAtom_quotedText (hkey : IsKey key) (hvalue : '"' ∉ value) (after : List Char) :
    readAtom ((key ++ ':' :: quoted value) ++ after) = some (key ++ ':' :: value, after) := by
  rw [List.append_assoc, List.cons_append, readAtom_key hkey.ne_nil hkey.chars,
    readValue_quoted hvalue]

/-! ## Starts and ends of words -/

theorem head_word {w : List Char} (hw : ∀ c ∈ w, isWordChar c = true) (hne : w ≠ []) :
    ∃ c w', w = c :: w' ∧ isWordChar c = true := by
  obtain ⟨c, w', rfl⟩ := List.exists_cons_of_ne_nil hne
  exact ⟨c, w', rfl, hw c List.mem_cons_self⟩

theorem not_behindDelimiter {w : List Char} (front : List Char)
    (hw : ∀ c ∈ w, isWordChar c = true) (hne : w ≠ []) : ¬BehindDelimiter (front ++ w) := by
  intro h
  have hlast := h (w.getLast hne) (by
    rw [List.getLast?_append, List.getLast?_eq_some_getLast hne, Option.some_or])
  have hword := hw _ (List.getLast_mem hne)
  rw [isWordChar, hlast] at hword
  cases hword

theorem behindDelimiter_concat (front : List Char) (hc : isDelimiter c = true) :
    BehindDelimiter (front ++ [c]) := by
  intro d hd
  rw [List.getLast?_concat] at hd
  cases hd
  exact hc

theorem behindDelimiter_quoted (front content : List Char) :
    BehindDelimiter (front ++ quoted content) := by
  rw [quoted, ← List.append_assoc]
  exact behindDelimiter_concat _ (by decide)

/-- Behind a delimiter no value is awaited. -/
theorem BehindDelimiter.not_awaitsValue (h : BehindDelimiter before) : ¬AwaitsValue before := by
  rintro ⟨front, key, rfl, -, hkey⟩
  exact not_behindDelimiter front hkey.word_colon (by simp) h

/-- Behind a word a value is awaited only if the word is a key with a colon. -/
theorem exists_key_of_awaitsValue {w : List Char} (hbefore : BehindDelimiter before)
    (hw : ∀ c ∈ w, isWordChar c = true) (hne : w ≠ []) (h : AwaitsValue (before ++ w)) :
    ∃ key, IsKey key ∧ w = key ++ [':'] := by
  obtain ⟨front, key, heq, hstart, hkey⟩ := h
  rcases List.append_eq_append_iff.1 heq with ⟨u, rfl, rfl⟩ | ⟨u, rfl, hu⟩
  · cases u with
    | nil => exact ⟨key, hkey, rfl⟩
    | cons d u =>
      exact absurd hstart.delimiter
        (not_behindDelimiter before (fun c hc => hw c (List.mem_append_left _ hc)) (by simp))
  · cases u with
    | nil => exact ⟨key, hkey, hu.symm⟩
    | cons d u =>
      refine absurd hbefore (not_behindDelimiter front (fun c hc => ?_) (by simp))
      exact hkey.word_colon c (hu ▸ List.mem_append_left w hc)

/-! ## Where parts can start -/

/-- A place between two parts: no word is cut, and no value is parted from its key. -/
structure IsBoundary (before after : List Char) : Prop where
  outside : IsOutside before
  word : ∀ c, after.head? = some c → isWordChar c = true → BehindDelimiter before
  value : after.head? = some '"' → ¬AwaitsValue before

theorem IsBoundary.of_behindDelimiter (hout : IsOutside before) (h : BehindDelimiter before)
    (after : List Char) : IsBoundary before after where
  outside := hout
  word _ _ _ := h
  value _ := h.not_awaitsValue

theorem isBoundary_delimiter (hout : IsOutside before) (hc : isDelimiter c = true) (hne : c ≠ '"')
    (cs : List Char) : IsBoundary before (c :: cs) where
  outside := hout
  word d hd hword := by
    cases hd
    rw [isWordChar, hc] at hword
    cases hword
  value h := absurd (Option.some.inj h) hne

theorem isBoundary_nil (after : List Char) : IsBoundary [] after :=
  .of_behindDelimiter (show IsOutside [] from rfl) (by rintro c ⟨⟩) after

theorem isOutside_append (h : IsOutside before) {w : List Char} (hw : quotes w % 2 = 0) :
    IsOutside (before ++ w) := by
  unfold IsOutside at h ⊢
  rw [quotes_append]
  omega

theorem quotes_word {w : List Char} (hw : ∀ c ∈ w, isWordChar c = true) : quotes w = 0 :=
  quotes_eq_zero fun hmem => ne_quote_of_isWordChar (hw _ hmem) rfl

theorem quotes_quotedAtom (hkey : IsKey key) (hvalue : '"' ∉ value) :
    quotes (key ++ ':' :: quoted value) = 2 := by
  rw [quotes_append, quotes_cons_of_ne (by decide), quotes_word hkey.word, quotes_quoted hvalue]

/-- No part starts inside a word. -/
theorem not_isBoundary_word {mid w : List Char} (hw : ∀ c ∈ mid ++ w, isWordChar c = true)
    (hmid : mid ≠ []) (hne : w ≠ []) : ¬IsBoundary (before ++ mid) (w ++ after) := by
  intro h
  obtain ⟨c, w, rfl⟩ := List.exists_cons_of_ne_nil hne
  have hbehind := h.word c rfl (hw c (by simp))
  exact not_behindDelimiter before (fun d hd => hw d (List.mem_append_left _ hd)) hmid hbehind

/-- No part starts between quotes. -/
theorem not_isBoundary_quoted {mid w : List Char} (hbefore : IsOutside before)
    (hcontent : '"' ∉ content) (h : quoted content = mid ++ w) (hmid : mid ≠ []) (hne : w ≠ []) :
    ¬IsBoundary (before ++ mid) (w ++ after) := by
  intro hboundary
  obtain ⟨c, mid, rfl⟩ := List.exists_cons_of_ne_nil hmid
  rw [quoted, List.cons_append, List.cons_append, List.cons.injEq] at h
  obtain ⟨rfl, h⟩ := h
  have hnone : '"' ∉ mid := by
    rcases List.append_eq_append_iff.1 h with ⟨u, rfl, hw⟩ | ⟨u, rfl, -⟩
    · cases u with
      | nil => simpa using hcontent
      | cons d u =>
        rw [List.cons_append, List.cons.injEq] at hw
        exact absurd (List.append_eq_nil_iff.1 hw.2.symm).2 hne
    · exact fun hmem => hcontent (List.mem_append_left _ hmem)
  have hodd := hboundary.outside
  unfold IsOutside at hbefore hodd
  rw [quotes_append, quotes_cons_quote, quotes_eq_zero hnone] at hodd
  omega

theorem isDelimiter_of_isBlank (h : Unicode.isBlank c = true) : isDelimiter c = true := by
  simp [isDelimiter, h]

namespace Part

variable {p q : Part}

namespace StandsBetween

theorem outside (h : p.StandsBetween before after) : IsOutside before := by
  cases h with
  | blank hout | «open» hout | close hout | literal hout => exact hout
  | atom hstart | quotedAtom hstart | run hstart => exact hstart.outside

/-- The quotes of a part come in pairs. -/
theorem quotes_text (h : p.StandsBetween before after) : quotes p.text % 2 = 0 := by
  cases h with
  | @blank c _ hc =>
    have hne : c ≠ '"' := by
      rintro rfl
      exact absurd hc (by decide)
    rw [Part.text, quotes_cons_of_ne hne]
    rfl
  | «open» => rfl
  | close => rfl
  | literal _ _ hcontent => rw [Part.text, quotes_quoted hcontent]
  | atom _ hkey hvalue => rw [Part.text, quotes_word (isWordChar_atom hkey hvalue)]
  | quotedAtom _ hkey hvalue => rw [Part.text, quotes_quotedAtom hkey hvalue]
  | run _ _ hchars => rw [Part.text, quotes_word hchars]

theorem text_ne_nil (h : p.StandsBetween before after) : p.text ≠ [] := by
  cases h with
  | run _ hne => exact hne
  | atom | quotedAtom => simp [Part.text]
  | _ => exact List.cons_ne_nil _ _

/-- A part starts at a boundary. -/
theorem isBoundary (h : p.StandsBetween before after) : IsBoundary before (p.text ++ after) := by
  cases h with
  | @blank c hout hc =>
    refine isBoundary_delimiter hout (isDelimiter_of_isBlank hc) ?_ _
    rintro rfl
    exact absurd hc (by decide)
  | «open» hout | close hout => exact isBoundary_delimiter hout (by decide) (by decide) _
  | literal hout hvalue =>
    exact ⟨hout, by rintro c ⟨⟩ hword; exact absurd hword (by decide), fun _ => hvalue⟩
  | atom hstart | quotedAtom hstart | run hstart =>
    exact .of_behindDelimiter hstart.outside hstart.delimiter _

/-- A part ends at a boundary. -/
theorem isBoundary_append (h : p.StandsBetween before after) :
    IsBoundary (before ++ p.text) after := by
  have hout := isOutside_append h.outside h.quotes_text
  cases h with
  | blank _ hc =>
    exact .of_behindDelimiter hout (behindDelimiter_concat _ (isDelimiter_of_isBlank hc)) after
  | «open» => exact .of_behindDelimiter hout (behindDelimiter_concat _ (by decide)) after
  | close => exact .of_behindDelimiter hout (behindDelimiter_concat _ (by decide)) after
  | literal => exact .of_behindDelimiter hout (behindDelimiter_quoted _ _) after
  | @quotedAtom key value =>
    have hlast := behindDelimiter_quoted (before ++ (key ++ [':'])) value
    rw [List.append_assoc, List.append_assoc, List.singleton_append] at hlast
    exact .of_behindDelimiter hout hlast after
  | @atom key value hstart hkey hvalue hend hempty =>
    refine ⟨hout, fun c hc hword => ?_, fun hquote hawaits => ?_⟩
    · rw [isWordChar, hend c hc] at hword
      cases hword
    · obtain ⟨key', hkey', heq⟩ := exists_key_of_awaitsValue hstart.delimiter
        (isWordChar_atom hkey hvalue) (by simp) hawaits
      exact hempty (eq_of_key_eq hkey hkey' heq).2 hquote
  | @run chars hstart hne hchars hend hatom =>
    refine ⟨hout, fun c hc hword => ?_, fun _ hawaits => ?_⟩
    · rw [isWordChar, hend c hc] at hword
      cases hword
    · obtain ⟨key, hkey, heq⟩ := exists_key_of_awaitsValue hstart.delimiter hchars hne hawaits
      exact hatom ⟨key, [], heq, hkey⟩

/-- No part starts inside another one. -/
theorem not_isBoundary_inside {mid w : List Char} (h : p.StandsBetween before after)
    (htext : p.text = mid ++ w) (hmid : mid ≠ []) (hne : w ≠ []) :
    ¬IsBoundary (before ++ mid) (w ++ after) := by
  have hsingle : ∀ c, p.text ≠ [c] := by
    intro c hc
    have hlength := congrArg List.length (hc ▸ htext)
    have hmid := List.length_pos_iff.2 hmid
    have hne := List.length_pos_iff.2 hne
    rw [List.length_append, List.length_singleton] at hlength
    omega
  cases h with
  | blank | «open» | close => exact absurd rfl (hsingle _)
  | literal hout _ hcontent => exact not_isBoundary_quoted hout hcontent htext hmid hne
  | atom _ hkey hvalue =>
    exact not_isBoundary_word (htext ▸ isWordChar_atom hkey hvalue) hmid hne
  | run _ _ hchars => exact not_isBoundary_word (htext ▸ hchars) hmid hne
  | @quotedAtom key value hstart hkey hvalue =>
    intro hboundary
    have hsplit : (key ++ [':']) ++ quoted value = mid ++ w := by simpa [Part.text] using htext
    -- the value is not parted from its key
    have hvalueStart : mid = key ++ [':'] → w ≠ quoted value := by
      rintro rfl rfl
      exact hboundary.value rfl ⟨before, key, rfl, hstart, hkey⟩
    rcases List.append_eq_append_iff.1 hsplit with ⟨u, rfl, hu⟩ | ⟨u, hu, rfl⟩
    · by_cases hnil : u = []
      · subst hnil
        exact hvalueStart (List.append_nil _) hu.symm
      · rw [← List.append_assoc] at hboundary
        refine not_isBoundary_quoted (isOutside_append hstart.outside ?_) hvalue hu hnil hne
          hboundary
        rw [quotes_word hkey.word_colon]
    · by_cases hnil : u = []
      · subst hnil
        exact hvalueStart (by simpa using hu.symm) rfl
      · rw [List.append_assoc] at hboundary
        exact not_isBoundary_word (hu ▸ hkey.word_colon) hmid hnil hboundary

end StandsBetween

/-! ## Parts with the same text -/

/-- The part that has a text. -/
def ofText (cs : List Char) : Part :=
  match readQuoted cs, readAtom cs with
  | some (content, _), _ => literal content
  | none, some (content, _) =>
    let key := cs.takeWhile isKeyChar
    let value := content.drop (key.length + 1)
    if '"' ∈ cs then quotedAtom key value else atom key value
  | none, none =>
    match cs with
    | [] => run []
    | c :: _ =>
      if isWordChar c then run cs
      else if c = '(' then «open»
      else if c = ')' then close
      else blank c

namespace StandsBetween

/-- A part is known by its text. -/
theorem ofText_text (h : p.StandsBetween before after) : ofText p.text = p := by
  unfold ofText
  cases h with
  | @blank c _ hc =>
    have hdelimiter := isDelimiter_of_isBlank hc
    have hne : ∀ d, Unicode.isBlank d = false → c ≠ d := by
      rintro d hd rfl
      rw [hc] at hd
      cases hd
    simp only [Part.text, readQuoted_of_ne (hne '"' (by decide)),
      readAtom_of_isDelimiter hdelimiter, isWordChar, hdelimiter]
    rw [if_neg (by decide), if_neg (hne '(' (by decide)), if_neg (hne ')' (by decide))]
  | «open» => decide +kernel
  | close => decide +kernel
  | @literal content _ _ hcontent =>
    have hread := readQuoted_quoted hcontent []
    rw [List.append_nil] at hread
    simp only [Part.text, hread]
  | @atom key value _ hkey hvalue =>
    have hword := isWordChar_atom hkey hvalue
    obtain ⟨c, w, htext, hc⟩ := head_word hword (by simp)
    have hread := readAtom_text hkey hvalue beforeDelimiter_nil (by simp)
    rw [List.append_nil] at hread
    have hquoted : readQuoted (key ++ ':' :: value) = none := by
      rw [htext, readQuoted_of_ne (ne_quote_of_isWordChar hc)]
    have hnone : '"' ∉ key ++ ':' :: value := fun hmem => ne_quote_of_isWordChar (hword _ hmem) rfl
    simp only [Part.text, hquoted, hread, takeWhile_key hkey, drop_key]
    rw [if_neg hnone]
  | @quotedAtom key value _ hkey hvalue =>
    obtain ⟨c, w, htext, hc⟩ := head_word hkey.word_colon (by simp)
    have hread := readAtom_quotedText hkey hvalue []
    rw [List.append_nil] at hread
    have hquoted : readQuoted (key ++ ':' :: quoted value) = none := by
      rw [← List.singleton_append, ← List.append_assoc, htext, List.cons_append,
        readQuoted_of_ne (ne_quote_of_isWordChar hc)]
    have hmem : '"' ∈ key ++ ':' :: quoted value := by simp [quoted]
    simp only [Part.text, hquoted, hread, takeWhile_key hkey, drop_key]
    rw [if_pos hmem]
  | @run chars _ hne hchars _ hatom =>
    obtain ⟨c, w, rfl, hc⟩ := head_word hchars hne
    have hread := readAtom_eq_none hatom beforeDelimiter_nil
    rw [List.append_nil] at hread
    simp only [Part.text, readQuoted_of_ne (ne_quote_of_isWordChar hc), hread]
    rw [if_pos hc]

/-- A part does not end inside another one. -/
theorem eq_nil_of_text_eq_append {u after' : List Char} (hp : p.StandsBetween before (u ++ after'))
    (hq : q.StandsBetween before after') (h : q.text = p.text ++ u) : u = [] := by
  refine Decidable.byContradiction fun hne => ?_
  exact hq.not_isBoundary_inside h hp.text_ne_nil hne hp.isBoundary_append

/-- At one place of a text stands one part. -/
theorem unique {after' : List Char} (hp : p.StandsBetween before after)
    (hq : q.StandsBetween before after') (h : p.text ++ after = q.text ++ after') :
    p = q ∧ after = after' := by
  have htexts : p.text = q.text ∧ after = after' := by
    rcases List.append_eq_append_iff.1 h with ⟨u, hq', rfl⟩ | ⟨u, hp', rfl⟩
    · obtain rfl := eq_nil_of_text_eq_append hp hq hq'
      exact ⟨by simpa using hq'.symm, rfl⟩
    · obtain rfl := eq_nil_of_text_eq_append hq hp hp'
      exact ⟨by simpa using hp', rfl⟩
  refine ⟨?_, htexts.2⟩
  rw [← hp.ofText_text, htexts.1, hq.ofText_text]

end StandsBetween

end Part

end Gazetteer.Query
