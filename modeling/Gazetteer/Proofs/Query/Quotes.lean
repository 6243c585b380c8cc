import Gazetteer.Proofs.Query.Lexing

/-!
# Texts behind each other

A text is cut into tokens without a fault only if its quotes come in pairs (`scan_closed_iff`). Then
no quote, atom or word of it reaches beyond its end, as long as a blank or a parenthesis follows:
the tokens of both texts are those of the first one and then those of the second one
(`tokens_quoteAtoms_append`).
-/

namespace Gazetteer.Query

/-! ## Counting quotes -/

/-- The number of quotes in a text. -/
def quotes (cs : List Char) : Nat := cs.count '"'

section Quotes

variable {c : Char} {cs content rest : List Char} {t : Token}

@[simp] theorem quotes_append (cs ds : List Char) : quotes (cs ++ ds) = quotes cs + quotes ds :=
  List.count_append

theorem quotes_cons_quote (cs : List Char) : quotes ('"' :: cs) = quotes cs + 1 :=
  List.count_cons_self

theorem quotes_cons_of_ne (hc : c ≠ '"') (cs : List Char) : quotes (c :: cs) = quotes cs :=
  List.count_cons_of_ne hc

theorem quotes_eq_zero (h : '"' ∉ cs) : quotes cs = 0 :=
  List.count_eq_zero_of_not_mem h

theorem quotes_takeWhile {p : Char → Bool} (hp : p '"' = false) (cs : List Char) :
    quotes (cs.takeWhile p) = 0 := by
  refine quotes_eq_zero fun hmem => ?_
  have := List.mem_takeWhile_imp hmem
  rw [hp] at this
  cases this

/-- The quotes stand behind a run without them. -/
theorem quotes_dropWhile {p : Char → Bool} (hp : p '"' = false) (cs : List Char) :
    quotes (cs.dropWhile p) = quotes cs := by
  have hsplit := quotes_append (cs.takeWhile p) (cs.dropWhile p)
  rw [List.takeWhile_append_dropWhile, quotes_takeWhile hp] at hsplit
  omega

theorem quotes_quoted (h : '"' ∉ content) : quotes (quoted content) = 2 := by
  rw [quoted, List.cons_append, quotes_cons_quote, quotes_append, quotes_eq_zero h]
  rfl

/-! ## Readers take quotes in pairs -/

theorem eq_quoted_of_readQuoted (h : readQuoted cs = some (content, rest)) :
    cs = quoted content ++ rest := by
  unfold readQuoted at h
  split at h
  · rename_i cs
    split at h
    · rename_i d tail hdrop
      simp only [Option.some.injEq, Prod.mk.injEq] at h
      obtain ⟨rfl, rfl⟩ := h
      have hquote : d = '"' := by
        have := of_mem_head?_dropWhile (p := (· != '"')) (a := d) (by rw [hdrop]; rfl)
        simpa using this
      have hsplit := List.takeWhile_append_dropWhile (p := (· != '"')) (l := cs)
      rw [hdrop, hquote] at hsplit
      rw [quoted, List.cons_append, List.cons_append, List.append_assoc, List.singleton_append,
        hsplit]
    · cases h
  · cases h

theorem quotes_of_readQuoted (h : readQuoted cs = some (content, rest)) :
    quotes cs = quotes rest + 2 := by
  rw [eq_quoted_of_readQuoted h, quotes_append, quotes_quoted (quote_notMem_of_readQuoted h),
    Nat.add_comm]

/-- A quote that is not closed is the last one. -/
theorem quotes_of_readQuoted_eq_none (h : readQuoted ('"' :: cs) = none) : quotes cs = 0 := by
  refine quotes_eq_zero fun hmem => ?_
  rw [readQuoted] at h
  split at h
  · cases h
  · rename_i hdrop
    have := List.dropWhile_eq_nil_iff.1 hdrop '"' hmem
    exact absurd this (by decide)

theorem quotes_readValue (cs : List Char) : quotes (readValue cs).2 % 2 = quotes cs % 2 := by
  unfold readValue
  cases h : readQuoted cs with
  | none =>
    rw [Option.getD_none, quotes_dropWhile (by decide)]
  | some r =>
    obtain ⟨value, rest⟩ := r
    rw [Option.getD_some, quotes_of_readQuoted h, Nat.add_mod_right]

theorem quotes_of_readAtom (h : readAtom cs = some (content, rest)) :
    quotes rest % 2 = quotes cs % 2 := by
  have hcolon := quotes_dropWhile (p := isKeyChar) (by decide) cs
  unfold readAtom at h
  split at h
  · rename_i k ks text _ hdrop
    simp only [Option.some.injEq, Prod.mk.injEq] at h
    rw [hdrop, quotes_cons_of_ne (by decide)] at hcolon
    rw [← h.2, ← hcolon]
    exact quotes_readValue text
  · cases h

/-- The ways to read a piece of a text. -/
inductive ReadsPiece (c : Char) (cs : List Char) : Prop where
  | quoted {content rest : List Char} (h : readQuoted (c :: cs) = some (content, rest))
  | atom {content rest : List Char} (h : readAtom (c :: cs) = some (content, rest))
  | run (hc : isWordChar c = true) (h : readAtom (c :: cs) = none)
  | delimiter (hc : isDelimiter c = true) (h : readQuoted (c :: cs) = none)

theorem readsPiece (c : Char) (cs : List Char) : ReadsPiece c cs := by
  cases hquoted : readQuoted (c :: cs) with
  | some r =>
    obtain ⟨content, rest⟩ := r
    exact .quoted hquoted
  | none =>
    cases hatom : readAtom (c :: cs) with
    | some r =>
      obtain ⟨content, rest⟩ := r
      exact .atom hatom
    | none =>
      cases hc : isWordChar c with
      | true => exact .run hc hatom
      | false => exact .delimiter (isWordChar_eq_false_iff.1 hc) hquoted

/-- Where a piece takes a single quote, no other follows. -/
theorem quotes_readPiece (c : Char) (cs : List Char) :
    (quotes (readPiece c cs).1 + quotes (readPiece c cs).2) % 2 = quotes (c :: cs) % 2 ∧
      (quotes (readPiece c cs).1 % 2 = 0 ∨ quotes (readPiece c cs).2 = 0) := by
  cases readsPiece c cs with
  | quoted h =>
    rw [readPiece_quoted h, quotes_quoted (quote_notMem_of_readQuoted h), quotes_of_readQuoted h,
      Nat.add_comm]
    exact ⟨rfl, .inl rfl⟩
  | atom h =>
    have hrest := quotes_of_readAtom h
    rw [readPiece_atom h, quotes_quoted (quote_notMem_of_readAtom h), Nat.add_mod_left]
    exact ⟨hrest, .inl rfl⟩
  | run hc h =>
    rw [readPiece_run hc h, quotes_cons_of_ne (ne_quote_of_isWordChar hc),
      quotes_cons_of_ne (ne_quote_of_isWordChar hc), quotes_takeWhile (by decide),
      quotes_dropWhile (by decide)]
    omega
  | delimiter hc h =>
    rw [readPiece_delimiter hc h]
    by_cases hquote : c = '"'
    · subst hquote
      rw [quotes_cons_quote, quotes_cons_quote, quotes_of_readQuoted_eq_none h]
      exact ⟨rfl, .inr rfl⟩
    · rw [quotes_cons_of_ne hquote, quotes_cons_of_ne hquote]
      exact ⟨by rw [show quotes [] = 0 from rfl, Nat.zero_add], .inl rfl⟩

theorem quotes_quoteAtoms (cs : List Char) : quotes (quoteAtoms cs) % 2 = quotes cs % 2 := by
  fun_induction quoteAtoms cs with
  | case1 => rfl
  | case2 c cs ih =>
    have hpiece := (quotes_readPiece c cs).1
    rw [quotes_append]
    omega

theorem quotes_of_readToken (h : readToken c cs = some (t, rest)) :
    quotes rest % 2 = quotes (c :: cs) % 2 := by
  unfold readToken at h
  split at h
  · rename_i hc
    cases h
    rw [quotes_cons_of_ne (by rw [hc]; decide)]
  · split at h
    · rename_i hc
      cases h
      rw [quotes_cons_of_ne (by rw [hc]; decide)]
    · split at h
      · obtain ⟨r, hr, he⟩ := Option.map_eq_some_iff.1 h
        obtain ⟨content, rest'⟩ := r
        cases he
        rw [quotes_of_readQuoted hr, Nat.add_mod_right]
      · rename_i hc
        cases h
        rw [quotes_dropWhile (by decide), quotes_cons_of_ne hc]

theorem eq_quote_of_readToken_eq_none (h : readToken c cs = none) :
    c = '"' ∧ readQuoted (c :: cs) = none := by
  unfold readToken at h
  split at h
  · cases h
  · split at h
    · cases h
    · split at h
      · exact ⟨‹_›, Option.map_eq_none_iff.1 h⟩
      · cases h

/-- A text is cut to its end if its quotes come in pairs, and only then. -/
theorem scan_closed_iff (cs : List Char) : (scan cs).2 = [] ↔ quotes cs % 2 = 0 := by
  fun_induction scan cs with
  | case1 => exact iff_of_true rfl rfl
  | case2 c cs hblank ih =>
    have hc : c ≠ '"' := by
      rintro rfl
      exact absurd hblank (by decide)
    rw [ih, quotes_cons_of_ne hc]
  | case3 c cs _ t rest hread ts unread hscan ih =>
    rw [hscan] at ih
    rw [← quotes_of_readToken hread]
    exact ih
  | case4 c cs _ hread =>
    obtain ⟨rfl, hquoted⟩ := eq_quote_of_readToken_eq_none hread
    refine iff_of_false (List.cons_ne_nil _ _) ?_
    rw [quotes_cons_quote, quotes_of_readQuoted_eq_none hquoted]
    decide

end Quotes

/-! ## Quoting a text with another one behind it -/

section Append

variable {c : Char} {cs rest : List Char} {t : Token}

theorem readQuoted_append {content tail : List Char}
    (h : readQuoted cs = some (content, tail)) (rest : List Char) :
    readQuoted (cs ++ rest) = some (content, tail ++ rest) := by
  rw [eq_quoted_of_readQuoted h, List.append_assoc]
  exact readQuoted_quoted (quote_notMem_of_readQuoted h) (tail ++ rest)

variable (hrest : ∀ c, rest.head? = some c → isDelimiter c = true ∧ c ≠ '"')

include hrest

theorem isWordChar_head : ∀ c, rest.head? = some c → isWordChar c = false :=
  fun c hc => isWordChar_eq_false_iff.2 (hrest c hc).1

theorem isKeyChar_head : ∀ c, rest.head? = some c → isKeyChar c = false :=
  fun c hc => isKeyChar_of_isDelimiter (hrest c hc).1

theorem readQuoted_append_eq_none (hcs : quotes cs % 2 = 0) (h : readQuoted cs = none) :
    readQuoted (cs ++ rest) = none := by
  cases cs with
  | nil =>
    cases rest with
    | nil => rfl
    | cons d rest => exact readQuoted_of_ne (hrest d rfl).2 rest
  | cons c cs =>
    refine readQuoted_of_ne ?_ (cs ++ rest)
    rintro rfl
    rw [quotes_cons_quote, quotes_of_readQuoted_eq_none h] at hcs
    exact absurd hcs (by decide)

theorem readValue_append (hcs : quotes cs % 2 = 0) :
    readValue (cs ++ rest) = ((readValue cs).1, (readValue cs).2 ++ rest) := by
  unfold readValue
  cases h : readQuoted cs with
  | some r =>
    obtain ⟨value, tail⟩ := r
    rw [readQuoted_append h, Option.getD_some, Option.getD_some]
  | none =>
    rw [readQuoted_append_eq_none hrest hcs h, Option.getD_none, Option.getD_none,
      takeWhile_append_stop (isWordChar_head hrest), dropWhile_append_stop (isWordChar_head hrest)]

/-- The colon of an atom stands before the end of the text. -/
theorem readAtom_append (hcs : quotes cs % 2 = 0) :
    readAtom (cs ++ rest) = (readAtom cs).map fun r => (r.1, r.2 ++ rest) := by
  have hkey := quotes_dropWhile (p := isKeyChar) (by decide) cs
  unfold readAtom
  rw [takeWhile_append_stop (isKeyChar_head hrest), dropWhile_append_stop (isKeyChar_head hrest)]
  cases cs.takeWhile isKeyChar with
  | nil => rfl
  | cons k ks =>
    cases hdrop : cs.dropWhile isKeyChar with
    | nil =>
      cases rest with
      | nil => rfl
      | cons d rest =>
        rw [List.nil_append]
        split
        · rename_i hcolon
          cases hcolon
          exact absurd (hrest ':' rfl).1 (by decide)
        · rfl
    | cons d text =>
      rw [List.cons_append]
      by_cases hd : d = ':'
      · subst hd
        rw [hdrop, quotes_cons_of_ne (by decide)] at hkey
        simp only [readValue_append hrest (hkey.symm ▸ hcs), Option.map_some]
      · split
        · rename_i hcolon
          cases hcolon
          exact absurd rfl hd
        · split
          · rename_i hcolon
            cases hcolon
            exact absurd rfl hd
          · rfl

theorem readPiece_append (hcs : quotes (c :: cs) % 2 = 0) :
    readPiece c (cs ++ rest) = ((readPiece c cs).1, (readPiece c cs).2 ++ rest) := by
  have hatom := readAtom_append hrest hcs
  rw [List.cons_append] at hatom
  cases readsPiece c cs with
  | quoted h =>
    have happend := readQuoted_append h rest
    rw [List.cons_append] at happend
    rw [readPiece_quoted h, readPiece_quoted happend]
  | atom h =>
    rw [h] at hatom
    rw [readPiece_atom h, readPiece_atom hatom]
  | run hc h =>
    rw [h] at hatom
    rw [readPiece_run hc h, readPiece_run hc hatom, takeWhile_append_stop (isWordChar_head hrest),
      dropWhile_append_stop (isWordChar_head hrest)]
  | delimiter hc h =>
    have hnone := readQuoted_append_eq_none hrest hcs h
    rw [List.cons_append] at hnone
    rw [readPiece_delimiter hc h, readPiece_delimiter hc hnone]

/-- No piece reaches beyond the end of a text whose quotes come in pairs. -/
theorem quoteAtoms_append (hcs : quotes cs % 2 = 0) :
    quoteAtoms (cs ++ rest) = quoteAtoms cs ++ quoteAtoms rest := by
  fun_induction quoteAtoms cs with
  | case1 => rfl
  | case2 c cs ih =>
    have hquotes := quotes_readPiece c cs
    rw [List.cons_append, quoteAtoms_cons, readPiece_append hrest hcs, ih (by omega),
      List.append_assoc]

end Append

/-! ## Cutting a text with another one behind it -/

section Cut

variable {c : Char} {cs tail rest : List Char} {t : Token}
  (hrest : ∀ c, rest.head? = some c → isWordChar c = false)

include hrest

theorem readToken_append (h : readToken c cs = some (t, tail)) :
    readToken c (cs ++ rest) = some (t, tail ++ rest) := by
  unfold readToken at h ⊢
  split at h
  · rename_i hc
    cases h
    rw [if_pos hc]
  · rename_i hopen
    rw [if_neg hopen]
    split at h
    · rename_i hc
      cases h
      rw [if_pos hc]
    · rename_i hclose
      rw [if_neg hclose]
      split at h
      · rename_i hc
        obtain ⟨⟨content, tail'⟩, hr, he⟩ := Option.map_eq_some_iff.1 h
        cases he
        rw [if_pos hc, ← List.cons_append, readQuoted_append hr, Option.map_some]
      · rename_i hc
        cases h
        rw [if_neg hc, takeWhile_append_stop hrest, dropWhile_append_stop hrest]

theorem scan_append (hcs : quotes cs % 2 = 0) :
    scan (cs ++ rest) = ((scan cs).1 ++ (scan rest).1, (scan rest).2) := by
  fun_induction scan cs with
  | case1 => rfl
  | case2 c cs hblank ih =>
    have hc : c ≠ '"' := by
      rintro rfl
      exact absurd hblank (by decide)
    rw [quotes_cons_of_ne hc] at hcs
    rw [List.cons_append, scan_blank hblank, ih hcs]
  | case3 c cs hblank t tail hread ts unread hscan ih =>
    rw [List.cons_append, scan_token (Bool.eq_false_iff.2 hblank) (readToken_append hrest hread),
      ih (by rw [quotes_of_readToken hread]; exact hcs), hscan]
    rfl
  | case4 c cs _ hread =>
    obtain ⟨rfl, hquoted⟩ := eq_quote_of_readToken_eq_none hread
    rw [quotes_cons_quote, quotes_of_readQuoted_eq_none hquoted] at hcs
    exact absurd hcs (by decide)

end Cut

/-! ## The tokens of a text with another one behind it -/

section Tokens

variable {cs rest : List Char} {ts us : List Token}

/-- The quotes of a text that has tokens come in pairs. -/
theorem quotes_of_tokens_eq_ok (h : tokens (quoteAtoms cs) = .ok ts) : quotes cs % 2 = 0 := by
  have hscan := tokens_eq_ok_iff.1 h
  have hclosed := (scan_closed_iff (quoteAtoms cs)).1 (by rw [hscan])
  rw [← quotes_quoteAtoms cs, hclosed]

/-- The tokens of a text do not depend on what is behind a blank or a parenthesis at its end. -/
theorem tokens_quoteAtoms_append (hcs : tokens (quoteAtoms cs) = .ok ts)
    (hrest : tokens (quoteAtoms rest) = .ok us)
    (hhead : ∀ c, rest.head? = some c → isDelimiter c = true ∧ c ≠ '"') :
    tokens (quoteAtoms (cs ++ rest)) = .ok (ts ++ us) := by
  have hquotes := quotes_of_tokens_eq_ok hcs
  rw [tokens_eq_ok_iff] at hcs hrest ⊢
  rw [quoteAtoms_append hhead hquotes, scan_append (head?_quoteAtoms (isWordChar_head hhead))
    (by rw [quotes_quoteAtoms, hquotes]), hcs, hrest]

/-- A text between parentheses. -/
def grouped (cs : List Char) : List Char :=
  '(' :: (cs ++ [')'])

/-- Tokens between parentheses. -/
def groupOf (ts : List Token) : List Token :=
  .open :: (ts ++ [.close])

theorem tokens_grouped (h : tokens (quoteAtoms cs) = .ok ts) :
    tokens (quoteAtoms (grouped cs)) = .ok (groupOf ts) := by
  have hclose : tokens (quoteAtoms [')']) = .ok [.close] := by decide +kernel
  have hbody := tokens_quoteAtoms_append h hclose (by rintro c ⟨⟩; decide)
  rw [tokens_eq_ok_iff] at hbody ⊢
  rw [grouped, scan_quoteAtoms_open, hbody, groupOf]

end Tokens

end Gazetteer.Query
