import Gazetteer.Proofs.Data.Lists
import Gazetteer.Query.Token

/-!
# Quoting and cutting agree

A text is read twice, once to quote its atoms (`quoteAtoms`) and once to cut it into tokens
(`scan`). Both readers stop at the same delimiters. So the tokens can be told from the text as it is
before quoting: what stands between quotes and every atom is one word, and where no atom starts a
run of other characters is one word or operator. The `scan_quoteAtoms_…` equations say so for each
way that a text can start.
-/

namespace Gazetteer.Query

/-! ## Delimiters -/

/-- The code points of the delimiters. -/
def delimiterPoints : List Nat := [
  0x9, 0xA, 0xB, 0xC, 0xD, 0x20, 0x22, 0x28, 0x29, 0x85, 0xA0, 0x1680, 0x2000, 0x2001, 0x2002,
  0x2003, 0x2004, 0x2005, 0x2006, 0x2007, 0x2008, 0x2009, 0x200A, 0x2028, 0x2029, 0x202F, 0x205F,
  0x3000]

theorem toNat_mem_delimiterPoints {c : Char} (h : isDelimiter c = true) :
    c.toNat ∈ delimiterPoints := by
  simp only [isDelimiter, Unicode.isBlank, Bool.or_eq_true, decide_eq_true_eq, beq_iff_eq] at h
  have hpoint : ∀ {d : Char}, c = d → c.toNat = d.toNat := fun h => congrArg _ h
  rcases h with ((h | h) | h) | h
  · simp only [delimiterPoints, List.mem_cons, List.not_mem_nil, or_false]
    omega
  · rw [h]
    decide
  · rw [h]
    decide
  · rw [h]
    decide

/-- No delimiter can be part of a key. -/
theorem isKeyChar_of_isDelimiter {c : Char} (h : isDelimiter c = true) : isKeyChar c = false := by
  have hall : ∀ n ∈ delimiterPoints, isKeyChar (Char.ofNat n) = false := by decide +kernel
  have := hall c.toNat (toNat_mem_delimiterPoints h)
  rwa [Char.ofNat_toNat] at this

theorem isWordChar_eq_false_iff {c : Char} : isWordChar c = false ↔ isDelimiter c = true := by
  simp [isWordChar]

theorem ne_quote_of_isWordChar {c : Char} (h : isWordChar c = true) : c ≠ '"' := by
  rintro rfl
  exact absurd h (by decide)

theorem ne_quote_of_isKeyChar {c : Char} (h : isKeyChar c = true) : c ≠ '"' := by
  rintro rfl
  exact absurd h (by decide)

/-! ## What stands between quotes -/

theorem readQuoted_quoted {content : List Char} (h : '"' ∉ content) (rest : List Char) :
    readQuoted (quoted content ++ rest) = some (content, rest) := by
  have hrun : ∀ c ∈ content, (c != '"') = true := fun c hc => bne_iff_ne.2 fun he => h (he ▸ hc)
  have hrest : ∀ c, ('"' :: rest).head? = some c → (c != '"') = false := by
    rintro c ⟨⟩
    decide
  have htext : quoted content ++ rest = '"' :: (content ++ '"' :: rest) := by simp [quoted]
  rw [htext, readQuoted, takeWhile_run hrun hrest, dropWhile_run hrun hrest]

theorem readQuoted_of_ne {c : Char} (hc : c ≠ '"') (cs : List Char) :
    readQuoted (c :: cs) = none := by
  unfold readQuoted
  split
  · rename_i h
    cases h
    exact absurd rfl hc
  · rfl

/-- No quote stands between quotes. -/
theorem quote_notMem_of_readQuoted {cs content rest : List Char}
    (h : readQuoted cs = some (content, rest)) : '"' ∉ content := by
  unfold readQuoted at h
  split at h
  · split at h
    · simp only [Option.some.injEq, Prod.mk.injEq] at h
      rw [← h.1]
      intro hmem
      exact absurd (List.mem_takeWhile_imp hmem) (by decide)
    · cases h
  · cases h

/-! ## Values -/

theorem readValue_quoted {value : List Char} (h : '"' ∉ value) (rest : List Char) :
    readValue (quoted value ++ rest) = (value, rest) := by
  rw [readValue, readQuoted_quoted h, Option.getD_some]

/-- A value without quotes ends in front of a delimiter, which is no quote if the value is empty. -/
theorem readValue_bare {value rest : List Char} (hvalue : ∀ c ∈ value, isWordChar c = true)
    (hrest : ∀ c, rest.head? = some c → isDelimiter c = true)
    (hempty : value = [] → rest.head? ≠ some '"') : readValue (value ++ rest) = (value, rest) := by
  have hstop : ∀ c, rest.head? = some c → isWordChar c = false :=
    fun c hc => isWordChar_eq_false_iff.2 (hrest c hc)
  have hquoted : readQuoted (value ++ rest) = none := by
    cases value with
    | cons c value =>
      exact readQuoted_of_ne (ne_quote_of_isWordChar (hvalue c List.mem_cons_self)) _
    | nil =>
      cases rest with
      | nil => rfl
      | cons c rest => exact readQuoted_of_ne (fun hc => hempty rfl (by rw [hc]; rfl)) rest
  rw [readValue, hquoted, Option.getD_none, takeWhile_run hvalue hstop, dropWhile_run hvalue hstop]

/-! ## Atoms -/

theorem quote_notMem_readValue (cs : List Char) : '"' ∉ (readValue cs).1 := by
  unfold readValue
  cases h : readQuoted cs with
  | none => exact fun hmem => ne_quote_of_isWordChar (List.mem_takeWhile_imp hmem) rfl
  | some r =>
    obtain ⟨value, rest⟩ := r
    exact quote_notMem_of_readQuoted h

/-- An atom has no quotes. -/
theorem quote_notMem_of_readAtom {cs content rest : List Char}
    (h : readAtom cs = some (content, rest)) : '"' ∉ content := by
  unfold readAtom at h
  split at h
  · rename_i k ks value hkey _
    simp only [Option.some.injEq, Prod.mk.injEq] at h
    rw [← h.1, ← hkey, List.mem_append, List.mem_cons]
    rintro (hmem | hmem | hmem)
    · exact ne_quote_of_isKeyChar (List.mem_takeWhile_imp hmem) rfl
    · cases hmem
    · exact quote_notMem_readValue value hmem
  · cases h

/-- An atom starts with a character of its key. -/
theorem isKeyChar_of_readAtom {c : Char} {cs content rest : List Char}
    (h : readAtom (c :: cs) = some (content, rest)) : isKeyChar c = true := by
  unfold readAtom at h
  split at h
  · rename_i k ks value hkey _
    refine Decidable.byContradiction fun hc => ?_
    rw [List.takeWhile_cons_of_neg hc] at hkey
    cases hkey
  · cases h

theorem readAtom_of_isDelimiter {c : Char} (hc : isDelimiter c = true) (cs : List Char) :
    readAtom (c :: cs) = none := by
  cases h : readAtom (c :: cs) with
  | none => rfl
  | some r =>
    obtain ⟨content, rest⟩ := r
    have hkey := isKeyChar_of_readAtom h
    rw [isKeyChar_of_isDelimiter hc] at hkey
    cases hkey

/-- A key, a colon and a value are an atom. -/
theorem readAtom_key {key : List Char} (hne : key ≠ []) (hkey : ∀ c ∈ key, isKeyChar c = true)
    (text : List Char) :
    readAtom (key ++ ':' :: text) =
      some (key ++ ':' :: (readValue text).1, (readValue text).2) := by
  have hcolon : ∀ c, (':' :: text).head? = some c → isKeyChar c = false := by
    rintro c ⟨⟩
    decide +kernel
  unfold readAtom
  rw [takeWhile_run hkey hcolon, dropWhile_run hkey hcolon]
  obtain ⟨k, ks, rfl⟩ := List.exists_cons_of_ne_nil hne
  rfl

/-! ## Pieces -/

theorem readPiece_quoted {c : Char} {cs content rest : List Char}
    (h : readQuoted (c :: cs) = some (content, rest)) :
    readPiece c cs = (quoted content, rest) := by
  unfold readPiece
  rw [h, Option.some_or]

theorem readPiece_atom {c : Char} {cs content rest : List Char}
    (h : readAtom (c :: cs) = some (content, rest)) : readPiece c cs = (quoted content, rest) := by
  unfold readPiece
  rw [readQuoted_of_ne (ne_quote_of_isKeyChar (isKeyChar_of_readAtom h)), h, Option.none_or]

theorem readPiece_run {c : Char} {cs : List Char} (hc : isWordChar c = true)
    (h : readAtom (c :: cs) = none) :
    readPiece c cs = (c :: cs.takeWhile isWordChar, cs.dropWhile isWordChar) := by
  unfold readPiece
  rw [readQuoted_of_ne (ne_quote_of_isWordChar hc), h, Option.none_or]
  exact if_pos hc

theorem readPiece_delimiter {c : Char} {cs : List Char} (hc : isDelimiter c = true)
    (h : readQuoted (c :: cs) = none) : readPiece c cs = ([c], cs) := by
  unfold readPiece
  rw [h, readAtom_of_isDelimiter hc, Option.none_or]
  exact if_neg (by simp [isWordChar, hc])

theorem quoteAtoms_cons (c : Char) (cs : List Char) :
    quoteAtoms (c :: cs) = (readPiece c cs).1 ++ quoteAtoms (readPiece c cs).2 := by
  rw [quoteAtoms]

/-- Quoting leaves a delimiter at the start of a text where there was one. -/
theorem head?_quoteAtoms {cs : List Char}
    (h : ∀ c, cs.head? = some c → isWordChar c = false) :
    ∀ c, (quoteAtoms cs).head? = some c → isWordChar c = false := by
  cases cs with
  | nil =>
    rw [quoteAtoms]
    rintro c ⟨⟩
  | cons d ds =>
    have hd := isWordChar_eq_false_iff.1 (h d rfl)
    rw [quoteAtoms_cons]
    cases hq : readQuoted (d :: ds) with
    | none =>
      rw [readPiece_delimiter hd hq]
      rintro c ⟨⟩
      exact h d rfl
    | some r =>
      obtain ⟨content, rest⟩ := r
      rw [readPiece_quoted hq]
      rintro c ⟨⟩
      decide

/-! ## Cutting a text -/

section Scan

variable {c : Char} {cs rest : List Char} {t : Token}

theorem scan_blank (hc : Unicode.isBlank c = true) : scan (c :: cs) = scan cs := by
  rw [scan, if_pos hc]

theorem scan_token (hc : Unicode.isBlank c = false) (h : readToken c cs = some (t, rest)) :
    scan (c :: cs) = (t :: (scan rest).1, (scan rest).2) := by
  rw [scan, if_neg (by simp [hc])]
  split
  · rename_i t' rest' h'
    rw [h] at h'
    cases h'
    rfl
  · rename_i h'
    rw [h] at h'
    cases h'

theorem scan_unclosed (hc : Unicode.isBlank c = false) (h : readToken c cs = none) :
    scan (c :: cs) = ([], c :: cs) := by
  rw [scan, if_neg (by simp [hc])]
  split
  · rename_i h'
    rw [h] at h'
    cases h'
  · rfl

theorem scan_quoted {content : List Char} (h : '"' ∉ content) :
    scan (quoted content ++ rest) =
      (.word (String.ofList content) :: (scan rest).1, (scan rest).2) := by
  have hread := readQuoted_quoted h rest
  rw [quoted, List.cons_append, List.cons_append] at hread ⊢
  refine scan_token (by decide) ?_
  unfold readToken
  rw [if_neg (by decide), if_neg (by decide), if_pos rfl, hread]
  rfl

theorem scan_run (hc : isWordChar c = true) (hcs : ∀ d ∈ cs, isWordChar d = true)
    (hrest : ∀ d, rest.head? = some d → isWordChar d = false) :
    scan (c :: cs ++ rest) = (.ofWord (c :: cs) :: (scan rest).1, (scan rest).2) := by
  have hblank : Unicode.isBlank c = false := by
    simp only [isWordChar, isDelimiter, Bool.not_eq_true', Bool.or_eq_false_iff] at hc
    exact hc.1.1.1
  have hne : ∀ {d : Char}, isWordChar d = false → c ≠ d := by
    rintro d hd rfl
    rw [hc] at hd
    cases hd
  rw [List.cons_append]
  refine scan_token hblank ?_
  unfold readToken
  rw [if_neg (hne (by decide)), if_neg (hne (by decide)), if_neg (hne (by decide)),
    takeWhile_run hcs hrest, dropWhile_run hcs hrest]

end Scan

/-! ## Cutting a text whose atoms are quoted -/

section

variable {c : Char} {cs content rest : List Char}

theorem scan_quoteAtoms_blank (hc : Unicode.isBlank c = true) :
    scan (quoteAtoms (c :: cs)) = scan (quoteAtoms cs) := by
  have hd : isDelimiter c = true := by simp [isDelimiter, hc]
  have hq : c ≠ '"' := by
    rintro rfl
    exact absurd hc (by decide)
  rw [quoteAtoms_cons, readPiece_delimiter hd (readQuoted_of_ne hq cs)]
  exact scan_blank hc

theorem scan_quoteAtoms_open :
    scan (quoteAtoms ('(' :: cs)) =
      (.open :: (scan (quoteAtoms cs)).1, (scan (quoteAtoms cs)).2) := by
  rw [quoteAtoms_cons, readPiece_delimiter (by decide) (readQuoted_of_ne (by decide) cs)]
  exact scan_token (by decide) rfl

theorem scan_quoteAtoms_close :
    scan (quoteAtoms (')' :: cs)) =
      (.close :: (scan (quoteAtoms cs)).1, (scan (quoteAtoms cs)).2) := by
  rw [quoteAtoms_cons, readPiece_delimiter (by decide) (readQuoted_of_ne (by decide) cs)]
  exact scan_token (by decide) rfl

/-- An atom is a word. -/
theorem scan_quoteAtoms_atom (h : readAtom (c :: cs) = some (content, rest)) :
    scan (quoteAtoms (c :: cs)) =
      (.word (String.ofList content) :: (scan (quoteAtoms rest)).1,
        (scan (quoteAtoms rest)).2) := by
  rw [quoteAtoms_cons, readPiece_atom h]
  exact scan_quoted (quote_notMem_of_readAtom h)

/-- Where there is no atom, a run of characters up to a delimiter is a word or an operator. -/
theorem scan_quoteAtoms_run (hc : isWordChar c = true) (h : readAtom (c :: cs) = none) :
    scan (quoteAtoms (c :: cs)) =
      (.ofWord (c :: cs.takeWhile isWordChar) :: (scan (quoteAtoms (cs.dropWhile isWordChar))).1,
        (scan (quoteAtoms (cs.dropWhile isWordChar))).2) := by
  rw [quoteAtoms_cons, readPiece_run hc h]
  exact scan_run hc (fun _ => List.mem_takeWhile_imp) (head?_quoteAtoms fun _ => of_mem_head?_dropWhile)

theorem scan_quoteAtoms_gap {gap : List Char} (hgap : ∀ d ∈ gap, Unicode.isBlank d = true)
    (cs : List Char) : scan (quoteAtoms (gap ++ cs)) = scan (quoteAtoms cs) := by
  induction gap with
  | nil => rfl
  | cons d gap ih =>
    rw [List.cons_append, scan_quoteAtoms_blank (hgap d List.mem_cons_self),
      ih fun e he => hgap e (List.mem_cons_of_mem d he)]

/-- Quoting leaves a text that does not start with a blank as one. -/
theorem exists_quoteAtoms_cons (hc : Unicode.isBlank c = false) (cs : List Char) :
    ∃ d ds, quoteAtoms (c :: cs) = d :: ds ∧ Unicode.isBlank d = false := by
  have hpiece : ∃ d ds, (readPiece c cs).1 = d :: ds ∧ Unicode.isBlank d = false := by
    unfold readPiece
    split
    · exact ⟨'"', _, rfl, by decide⟩
    · split
      · exact ⟨c, _, rfl, hc⟩
      · exact ⟨c, [], rfl, hc⟩
  obtain ⟨d, ds, hd, hblank⟩ := hpiece
  exact ⟨d, ds ++ quoteAtoms (readPiece c cs).2, by rw [quoteAtoms_cons, hd]; rfl, hblank⟩

/-- Only blanks are read as no token. -/
theorem scan_quoteAtoms_eq_nil_iff :
    scan (quoteAtoms cs) = ([], []) ↔ ∀ c ∈ cs, Unicode.isBlank c = true := by
  constructor
  · intro h
    induction cs with
    | nil => exact nofun
    | cons c cs ih =>
      cases hc : Unicode.isBlank c with
      | true =>
        rw [scan_quoteAtoms_blank hc] at h
        exact List.forall_mem_cons.2 ⟨hc, ih h⟩
      | false =>
        obtain ⟨d, ds, htext, hd⟩ := exists_quoteAtoms_cons hc cs
        rw [htext] at h
        cases hread : readToken d ds with
        | none =>
          rw [scan_unclosed hd hread] at h
          cases h
        | some r =>
          obtain ⟨t, rest⟩ := r
          rw [scan_token hd hread] at h
          cases h
  · intro h
    have hgap := scan_quoteAtoms_gap h []
    rw [List.append_nil] at hgap
    rw [hgap, quoteAtoms, scan]

theorem tokens_eq_ok_iff {ts : List Token} : tokens cs = .ok ts ↔ scan cs = (ts, []) := by
  unfold tokens
  split
  · rename_i ts' hscan
    rw [hscan, Except.ok.injEq, Prod.mk.injEq]
    exact (and_iff_left rfl).symm
  · rename_i ts' unread hne hscan
    rw [hscan]
    exact iff_of_false nofun fun h => hne (Prod.mk.inj h).2

theorem tokens_eq_nil_iff :
    tokens (quoteAtoms cs) = .ok [] ↔ ∀ c ∈ cs, Unicode.isBlank c = true :=
  tokens_eq_ok_iff.trans scan_quoteAtoms_eq_nil_iff

end

end Gazetteer.Query
