import Gazetteer.Proofs.Query.Parts

/-!
# Dividing a query into parts

A text whose quotes come in pairs is divided into the parts that stand in it (`Divides`), and its
tokens are those of its parts (`tokens_eq_ok_iff_divides`). So every literal and every atom is one
word, and no token takes characters from two of them. Reading a text takes no more rounds than it
has characters, and fails exactly if one of its quotes is not closed (`tokens_by_parts`).
-/

namespace Gazetteer.Query

variable {before after cs content : List Char} {c : Char} {p : Part} {ps front back : List Part}

/-! ## Parts behind each other -/

/-- The text of several parts. -/
def textOf (ps : List Part) : List Char := ps.flatMap Part.text

@[simp] theorem textOf_nil : textOf [] = [] := rfl

@[simp] theorem textOf_cons (p : Part) (ps : List Part) :
    textOf (p :: ps) = p.text ++ textOf ps := List.flatMap_cons

@[simp] theorem textOf_append (ps qs : List Part) : textOf (ps ++ qs) = textOf ps ++ textOf qs :=
  List.flatMap_append

/-- A text is divided into the parts that stand in it. -/
structure Divides (ps : List Part) (cs : List Char) : Prop where
  textOf_eq : textOf ps = cs
  stands_iff : ∀ before p after, before ++ (p.text ++ after) = cs ∧ p.StandsBetween before after ↔
    ∃ front back, ps = front ++ p :: back ∧ textOf front = before ∧ textOf back = after

/-- Parts behind each other, each of which stands where it is. -/
def StandFrom (before : List Char) : List Part → Prop
  | [] => True
  | p :: ps => p.StandsBetween before (textOf ps) ∧ StandFrom (before ++ p.text) ps

theorem StandFrom.stands (h : StandFrom before (front ++ p :: back)) :
    p.StandsBetween (before ++ textOf front) (textOf back) := by
  induction front generalizing before with
  | nil => simpa using h.1
  | cons q front ih => simpa using ih h.2

theorem standFrom_of_stands (h : ∀ front p back, ps = front ++ p :: back →
    p.StandsBetween (before ++ textOf front) (textOf back)) : StandFrom before ps := by
  induction ps generalizing before with
  | nil => trivial
  | cons q ps ih =>
    refine ⟨by simpa using h [] q ps rfl, ih fun front p back hps => ?_⟩
    simpa using h (q :: front) p back (by rw [hps, List.cons_append])

/-- Every part that stands in the text of some parts is one of them. -/
theorem StandFrom.exists_of_stands (h : StandFrom before ps) {mid : List Char}
    (hp : p.StandsBetween (before ++ mid) after) (htext : mid ++ (p.text ++ after) = textOf ps) :
    ∃ front back, ps = front ++ p :: back ∧ textOf front = mid ∧ textOf back = after := by
  induction ps generalizing before mid with
  | nil =>
    have hnil := (List.append_eq_nil_iff.1 htext).2
    exact absurd (List.append_eq_nil_iff.1 hnil).1 hp.text_ne_nil
  | cons q ps ih =>
    obtain ⟨hq, hps⟩ := h
    rw [textOf_cons] at htext
    by_cases hmid : mid = []
    · subst hmid
      rw [List.append_nil] at hp
      obtain ⟨rfl, rfl⟩ := hp.unique hq htext
      exact ⟨[], ps, rfl, rfl, rfl⟩
    · obtain ⟨u, rfl, hrest⟩ : ∃ u, mid = q.text ++ u ∧ textOf ps = u ++ (p.text ++ after) := by
        rcases List.append_eq_append_iff.1 htext with ⟨u, hu, hrest⟩ | ⟨u, hu, hrest⟩
        · have hnil : u = [] := Decidable.byContradiction fun hne =>
            hq.not_isBoundary_inside hu hmid hne (hrest ▸ hp.isBoundary)
          subst hnil
          exact ⟨[], by simpa using hu.symm, hrest.symm⟩
        · exact ⟨u, hu, hrest⟩
      rw [← List.append_assoc] at hp
      obtain ⟨front, back, rfl, hfront, hback⟩ := ih hps hp hrest.symm
      exact ⟨q :: front, back, rfl, by rw [textOf_cons, hfront], hback⟩

/-- Parts that stand behind each other are all the parts of their text. -/
theorem divides_of_standFrom (h : StandFrom [] ps) : Divides ps (textOf ps) where
  textOf_eq := rfl
  stands_iff before p after := by
    constructor
    · rintro ⟨htext, hp⟩
      exact h.exists_of_stands hp htext
    · rintro ⟨front, back, rfl, rfl, rfl⟩
      exact ⟨by simp, h.stands⟩

theorem Divides.standFrom (h : Divides ps cs) : StandFrom [] ps :=
  standFrom_of_stands fun front p back hps =>
    ((h.stands_iff (textOf front) p (textOf back)).2 ⟨front, back, hps, rfl, rfl⟩).2

/-! ## Dividing a text -/

/-- What is read as an atom behind a boundary is a part that stands there. -/
theorem exists_stands_of_readAtom {rest : List Char} (h : IsBoundary before cs)
    (hquotes : quotes cs % 2 = 0) (hread : readAtom cs = some (content, rest)) :
    ∃ (p : Part) (after : List Char), cs = p.text ++ after ∧ p.StandsBetween before after := by
  obtain ⟨key, text, hkey, rfl, -, -⟩ := exists_key_of_readAtom hread
  have hstart : StartsWord before := by
    obtain ⟨c, w, hw, hc⟩ := head_word hkey.word hkey.ne_nil
    exact ⟨h.outside, h.word c (by rw [hw]; rfl) hc⟩
  have htext : quotes text % 2 = 0 := by
    rwa [quotes_append, quotes_word hkey.word, Nat.zero_add, quotes_cons_of_ne (by decide)]
      at hquotes
  cases hvalue : readQuoted text with
  | some r =>
    obtain ⟨value, after⟩ := r
    refine ⟨.quotedAtom key value, after, ?_,
      .quotedAtom hstart hkey (quote_notMem_of_readQuoted hvalue)⟩
    simp [Part.text, eq_quoted_of_readQuoted hvalue]
  | none =>
    refine ⟨.atom key (text.takeWhile isWordChar), text.dropWhile isWordChar, by simp [Part.text],
      .atom hstart hkey (fun _ => List.mem_takeWhile_imp)
        (fun _ hd => isWordChar_eq_false_iff.1 (of_mem_head?_dropWhile hd)) fun hempty hquote => ?_⟩
    -- a quote that is not closed would be the only one
    have hdrop := List.takeWhile_append_dropWhile (p := isWordChar) (l := text)
    rw [hempty, List.nil_append] at hdrop
    rw [hdrop] at hquote
    obtain ⟨cs, rfl⟩ := List.head?_eq_some_iff.1 hquote
    rw [quotes_cons_quote, quotes_of_readQuoted_eq_none hvalue] at htext
    cases htext

/-- At a boundary of a text whose quotes come in pairs stands a part. -/
theorem exists_stands (h : IsBoundary before (c :: cs)) (hquotes : quotes (c :: cs) % 2 = 0) :
    ∃ (p : Part) (after : List Char), c :: cs = p.text ++ after ∧ p.StandsBetween before after := by
  cases readsPiece c cs with
  | @quoted content rest hread =>
    have htext := eq_quoted_of_readQuoted hread
    refine ⟨.literal content, rest, htext, .literal h.outside (h.value ?_)
      (quote_notMem_of_readQuoted hread)⟩
    rw [htext]
    rfl
  | atom hread => exact exists_stands_of_readAtom h hquotes hread
  | run hc hread =>
    have hchars : ∀ d ∈ c :: cs.takeWhile isWordChar, isWordChar d = true :=
      List.forall_mem_cons.2 ⟨hc, fun _ => List.mem_takeWhile_imp⟩
    refine ⟨.run (c :: cs.takeWhile isWordChar), cs.dropWhile isWordChar, by simp [Part.text],
      .run ⟨h.outside, h.word c rfl hc⟩ (List.cons_ne_nil _ _) hchars
        (fun _ hd => isWordChar_eq_false_iff.1 (of_mem_head?_dropWhile hd)) ?_⟩
    rintro ⟨key, value, hatom, hkey⟩
    have htext : c :: cs = key ++ ':' :: (value ++ cs.dropWhile isWordChar) := by
      rw [← List.cons_append, ← List.append_assoc, ← hatom, List.cons_append,
        List.takeWhile_append_dropWhile]
    rw [htext, readAtom_key hkey.ne_nil hkey.chars] at hread
    cases hread
  | delimiter hc hread =>
    have hne : c ≠ '"' := by
      rintro rfl
      rw [quotes_cons_quote, quotes_of_readQuoted_eq_none hread] at hquotes
      cases hquotes
    simp only [isDelimiter, Bool.or_eq_true, beq_iff_eq] at hc
    rcases hc with ((hblank | rfl) | rfl) | rfl
    · exact ⟨.blank c, cs, rfl, .blank h.outside hblank⟩
    · exact ⟨.open, cs, rfl, .open h.outside⟩
    · exact ⟨.close, cs, rfl, .close h.outside⟩
    · exact absurd rfl hne

theorem exists_standFrom (h : IsBoundary before cs) (hquotes : quotes cs % 2 = 0) :
    ∃ ps, textOf ps = cs ∧ StandFrom before ps := by
  induction hlength : cs.length using Nat.strongRecOn generalizing before cs with
  | _ n ih =>
    cases cs with
    | nil => exact ⟨[], rfl, trivial⟩
    | cons c cs =>
      obtain ⟨p, after, htext, hp⟩ := exists_stands h hquotes
      have hshorter : after.length < n := by
        have hpos := List.length_pos_iff.2 hp.text_ne_nil
        rw [← hlength, htext, List.length_append]
        omega
      have hafter : quotes after % 2 = 0 := by
        have hpart := hp.quotes_text
        rw [htext, quotes_append] at hquotes
        omega
      obtain ⟨ps, rfl, hps⟩ := ih _ hshorter hp.isBoundary_append hafter rfl
      exact ⟨p :: ps, by rw [textOf_cons, htext], hp, hps⟩

/-! ## The tokens of parts -/

theorem scan_quoteAtoms_of_readAtom {rest : List Char} (h : readAtom cs = some (content, rest)) :
    scan (quoteAtoms cs) = (.word (String.ofList content) :: (scan (quoteAtoms rest)).1,
      (scan (quoteAtoms rest)).2) := by
  cases cs with
  | nil => cases h
  | cons c cs => exact scan_quoteAtoms_atom h

theorem scan_quoteAtoms_literal (h : '"' ∉ content) (rest : List Char) :
    scan (quoteAtoms (quoted content ++ rest)) =
      (.word (String.ofList content) :: (scan (quoteAtoms rest)).1,
        (scan (quoteAtoms rest)).2) := by
  have hread := readQuoted_quoted h rest
  rw [quoted, List.cons_append, List.cons_append] at hread ⊢
  rw [quoteAtoms_cons, readPiece_quoted hread, scan_quoted h]

/-- A part at the start of a text is read as its token. -/
theorem scan_quoteAtoms_part (h : p.StandsBetween before after) :
    scan (quoteAtoms (p.text ++ after)) =
      (p.token?.toList ++ (scan (quoteAtoms after)).1, (scan (quoteAtoms after)).2) := by
  cases h with
  | blank _ hc => exact scan_quoteAtoms_blank hc
  | «open» => exact scan_quoteAtoms_open
  | close => exact scan_quoteAtoms_close
  | literal _ _ hcontent => exact scan_quoteAtoms_literal hcontent after
  | atom _ hkey hvalue hend hempty =>
    exact scan_quoteAtoms_of_readAtom (readAtom_text hkey hvalue hend hempty)
  | quotedAtom _ hkey hvalue =>
    exact scan_quoteAtoms_of_readAtom (readAtom_quotedText hkey hvalue after)
  | run _ hne hchars hend hatom =>
    have hread := readAtom_eq_none hatom hend
    have hstop : ∀ c, after.head? = some c → isWordChar c = false :=
      fun c hc => isWordChar_eq_false_iff.2 (hend c hc)
    obtain ⟨c, w, rfl, hc⟩ := head_word hchars hne
    have hw : ∀ d ∈ w, isWordChar d = true := fun d hd => hchars d (List.mem_cons_of_mem c hd)
    rw [List.cons_append] at hread
    rw [Part.text, List.cons_append, scan_quoteAtoms_run hc hread, takeWhile_run hw hstop,
      dropWhile_run hw hstop]
    rfl

theorem scan_quoteAtoms_textOf (h : StandFrom before ps) :
    scan (quoteAtoms (textOf ps)) = (ps.filterMap Part.token?, []) := by
  induction ps generalizing before with
  | nil => rw [textOf_nil, quoteAtoms, scan, List.filterMap_nil]
  | cons p ps ih =>
    rw [textOf_cons, scan_quoteAtoms_part h.1, ih h.2, List.filterMap_cons]
    cases p.token? <;> rfl

/-- **The tokens of a text are those of its parts.** -/
theorem tokens_eq_ok_iff_divides {ts : List Token} :
    tokens (quoteAtoms cs) = .ok ts ↔ ∃ ps, Divides ps cs ∧ ps.filterMap Part.token? = ts := by
  constructor
  · intro h
    obtain ⟨ps, rfl, hps⟩ := exists_standFrom (isBoundary_nil cs) (quotes_of_tokens_eq_ok h)
    rw [tokens_eq_ok_iff, scan_quoteAtoms_textOf hps, Prod.mk.injEq] at h
    exact ⟨ps, divides_of_standFrom hps, h.1⟩
  · rintro ⟨ps, hps, rfl⟩
    rw [tokens_eq_ok_iff, ← hps.textOf_eq, scan_quoteAtoms_textOf hps.standFrom]

/-! ## Rounds of reading -/

/-- A number of pieces, one after the other, lead from a text to its end. `out` is what is put
together of them. -/
inductive PiecesTo : Nat → List Char → List Char → Prop where
  | done : PiecesTo 0 [] []
  | piece {n : Nat} {c : Char} {cs out : List Char} (h : PiecesTo n (readPiece c cs).2 out) :
    PiecesTo (n + 1) (c :: cs) ((readPiece c cs).1 ++ out)

/-- A number of blanks and tokens, one after the other, lead from a text to its end or to a quote
that is not closed. `found` is the tokens and the text that is left. -/
inductive TokensTo : Nat → List Char → List Token × List Char → Prop where
  | done : TokensTo 0 [] ([], [])
  | unclosed {c : Char} {cs : List Char} (hc : Unicode.isBlank c = false)
    (h : readToken c cs = none) : TokensTo 0 (c :: cs) ([], c :: cs)
  | blank {n : Nat} {c : Char} {cs : List Char} {found : List Token × List Char}
    (hc : Unicode.isBlank c = true) (h : TokensTo n cs found) : TokensTo (n + 1) (c :: cs) found
  | token {n : Nat} {c : Char} {cs rest : List Char} {t : Token} {found : List Token × List Char}
    (hc : Unicode.isBlank c = false) (hread : readToken c cs = some (t, rest))
    (h : TokensTo n rest found) : TokensTo (n + 1) (c :: cs) (t :: found.1, found.2)

theorem exists_piecesTo (cs : List Char) : ∃ n ≤ cs.length, PiecesTo n cs (quoteAtoms cs) := by
  fun_induction quoteAtoms cs with
  | case1 => exact ⟨0, Nat.le_refl 0, .done⟩
  | case2 c cs ih =>
    obtain ⟨n, hn, h⟩ := ih
    exact ⟨n + 1, Nat.lt_of_le_of_lt hn (length_readPiece c cs), .piece h⟩

theorem exists_tokensTo (cs : List Char) : ∃ n ≤ cs.length, TokensTo n cs (scan cs) := by
  fun_induction scan cs with
  | case1 => exact ⟨0, Nat.le_refl 0, .done⟩
  | case2 c cs hblank ih =>
    obtain ⟨n, hn, h⟩ := ih
    exact ⟨n + 1, Nat.succ_le_succ hn, .blank hblank h⟩
  | case3 c cs hblank t rest hread ts unread hscan ih =>
    obtain ⟨n, hn, h⟩ := ih
    rw [hscan] at h
    exact ⟨n + 1, Nat.lt_of_le_of_lt hn (length_readToken hread),
      .token (Bool.eq_false_iff.2 hblank) hread h⟩
  | case4 c cs hblank hread =>
    exact ⟨0, Nat.zero_le _, .unclosed (Bool.eq_false_iff.2 hblank) hread⟩

theorem exists_tokens_eq_error_iff :
    (∃ fault, tokens (quoteAtoms cs) = .error fault) ↔ quotes cs % 2 = 1 := by
  have hclosed := scan_closed_iff (quoteAtoms cs)
  rw [quotes_quoteAtoms] at hclosed
  unfold tokens
  split
  · rename_i ts hscan
    rw [hscan] at hclosed
    have := hclosed.1 rfl
    exact iff_of_false (by rintro ⟨fault, ⟨⟩⟩) (by omega)
  · rename_i ts unread hne hscan
    rw [hscan] at hclosed
    have := mt hclosed.2 fun h => hne (by simpa using h)
    exact iff_of_true ⟨_, rfl⟩ (by omega)

/-- **Every text is quoted and cut in as many rounds as it has characters at most, and is refused
exactly if its quotes do not come in pairs.** Otherwise it is divided into parts: every literal and
every atom that stands in it is one of them and one word, and each token is that of one part. -/
theorem tokens_by_parts (cs : List Char) :
    (∃ n ≤ cs.length, PiecesTo n cs (quoteAtoms cs)) ∧
    (∃ n ≤ (quoteAtoms cs).length, TokensTo n (quoteAtoms cs) (scan (quoteAtoms cs))) ∧
    ((∃ fault, tokens (quoteAtoms cs) = .error fault) ↔ quotes cs % 2 = 1) ∧
    ∀ ts, tokens (quoteAtoms cs) = .ok ts ↔
      ∃ ps, Divides ps cs ∧ ps.filterMap Part.token? = ts :=
  ⟨exists_piecesTo cs, exists_tokensTo (quoteAtoms cs), exists_tokens_eq_error_iff,
    fun _ => tokens_eq_ok_iff_divides⟩

/-- A literal right behind an atom, a value between quotes and a word right behind it. -/
theorem tokens_by_parts_adjacent :
    ∃ ps, Divides ps "tag:a\"b c\"(path:\"d e\"f".toList ∧ ps.filterMap Part.token? =
      [.word "tag:a", .word "b c", .open, .word "path:d e", .word "f"] :=
  ((tokens_by_parts _).2.2.2 _).1 (by decide +kernel)

end Gazetteer.Query
