import Gazetteer.Proofs.Query.Grammar
import Gazetteer.Proofs.Query.Parts

/-!
# Writing expressions as text

There are many ways to write a sequence of tokens: with more or fewer blanks, with operators in any
case, with values between quotes or without them. `Writes` holds of all of them. However a sequence
of tokens is written, it is what is read again, as long as its words are predicates
(`tokens_of_writes`). So a text that writes a phrase is compiled into the steps of its expression,
and matches the layers for which the expression is true (`compile_of_writes`).
-/

namespace Gazetteer

/-! ## Lower case -/

namespace Unicode

/-- What holds of the first 128 code points holds of every ASCII character. -/
theorem forall_ascii {P : Char → Prop} (h : ∀ n < 128, P (Char.ofNat n)) {c : Char}
    (hc : c.toNat < 128) : P c := by
  have hp := h c.toNat hc
  rwa [Char.ofNat_toNat] at hp

/-- A small letter from `a` to `z`. -/
def isSmallLetter (c : Char) : Bool :=
  decide (97 ≤ c.toNat) && decide (c.toNat ≤ 122)

theorem le_of_isSmallLetter_ofNat {n : Nat} (h : isSmallLetter (Char.ofNat n) = true) :
    n ≤ 122 := by
  by_cases hvalid : n.isValidChar
  · have hn : (Char.ofNat n).toNat = n := by
      rw [Char.ofNat, dif_pos hvalid]
      rfl
    rw [isSmallLetter, hn, Bool.and_eq_true, decide_eq_true_eq, decide_eq_true_eq] at h
    exact h.2
  · rw [Char.ofNat, dif_neg hvalid] at h
    exact absurd h (by decide)

/-- Beside the ASCII letters, only the Kelvin sign has a small letter as its lower case form. -/
theorem isAlphabetic_of_lowerChar {c : Char} (h : ∀ d ∈ lowerChar c, isSmallLetter d = true) :
    isAlphabetic c = true := by
  have hascii : c.toNat < 128 → isSmallLetter c.toLower = true → isAlphabetic c = true :=
    forall_ascii (P := fun c => isSmallLetter c.toLower = true → isAlphabetic c = true)
      (by decide +kernel)
  have hruns : ∀ r ∈ lowercaseRuns, 122 < r.first + r.offset ∨
      r.first = 0x212A ∧ r.last = 0x212A := by decide +kernel
  unfold lowerChar at h
  split at h
  · rename_i hc
    exact hascii hc (h c.toLower List.mem_cons_self)
  · rename_i hc
    split at h
    · exact absurd (h (Char.ofNat 0x307) (by simp)) (by decide)
    · split at h
      · rename_i r hr
        have hcontains := List.find?_some hr
        simp only [CaseRun.contains, Bool.and_eq_true, decide_eq_true_eq] at hcontains
        have himage := le_of_isSmallLetter_ofNat (h _ List.mem_cons_self)
        rcases hruns r (List.mem_of_find?_eq_some hr) with hr | hr
        · omega
        · have hkelvin : c = Char.ofNat 0x212A := by
            rw [← Char.ofNat_toNat c, show c.toNat = 0x212A by omega]
          rw [hkelvin]
          decide +kernel
      · have := h c List.mem_cons_self
        simp only [isSmallLetter, Bool.and_eq_true, decide_eq_true_eq] at this
        omega

theorem isAlphabetic_of_lowerFrom {before cs : List Char}
    (h : ∀ d ∈ lowerFrom before cs, isSmallLetter d = true) : ∀ c ∈ cs, isAlphabetic c = true := by
  induction cs generalizing before with
  | nil => exact nofun
  | cons c cs ih =>
    rw [lowerFrom] at h
    rintro d hd
    rcases List.mem_cons.1 hd with rfl | hd
    · refine isAlphabetic_of_lowerChar fun e he => h e (List.mem_append_left _ ?_)
      rw [if_neg]
      · exact he
      · -- neither form of the sigma is a small letter
        rintro rfl
        rw [if_pos rfl] at h
        have hsigma := h _ (List.mem_append_left _ List.mem_cons_self)
        split at hsigma <;> exact absurd hsigma (by decide)
    · exact ih (fun e he => h e (List.mem_append_right _ he)) d hd

end Unicode

namespace Query

/-! ## Keys -/

/-- The keys of predicates. -/
def Predicate.keys : List String :=
  ["tag", "name", "path", "linkedto", "linkedfrom", "lines"]

theorem Predicate.lowercase_mem_keys {key value : List Char} {p : Predicate} (hkey : ':' ∉ key)
    (h : Predicate.ofWord (String.ofList (key ++ ':' :: value)) = .ok p) :
    Unicode.lowercase (String.ofList key) ∈ keys := by
  have hrun : ∀ c ∈ key, (c != ':') = true := fun c hc => bne_iff_ne.2 fun he => hkey (he ▸ hc)
  have hcolon : ∀ c, (':' :: value).head? = some c → (c != ':') = false := by
    rintro c ⟨⟩
    decide
  unfold Predicate.ofWord at h
  simp only [String.toList_ofList, takeWhile_run hrun hcolon, dropWhile_run hrun hcolon] at h
  split at h
  case h_7 => cases h
  all_goals
    rename_i hk
    rw [hk]
    decide

/-- In any case that it is written, a key of predicates can start an atom. -/
theorem Predicate.key_of_ofWord {key value : List Char} {p : Predicate} (hkey : ':' ∉ key)
    (h : Predicate.ofWord (String.ofList (key ++ ':' :: value)) = .ok p) :
    key ≠ [] ∧ ∀ c ∈ key, isKeyChar c = true := by
  have hkeys : ∀ k ∈ keys, k ≠ "" ∧ k.toList.all Unicode.isSmallLetter = true := by decide
  obtain ⟨hne, hsmall⟩ := hkeys _ (lowercase_mem_keys hkey h)
  rw [Unicode.lowercase, String.toList_ofList, String.toList_ofList, List.all_eq_true] at hsmall
  refine ⟨?_, fun c hc => ?_⟩
  · rintro rfl
    exact hne rfl
  · simp [isKeyChar, Unicode.isAlphanumeric, Unicode.isAlphabetic_of_lowerFrom hsmall c hc]

/-! ## Written tokens -/

/-- The ways to write a token. A value without blanks, parentheses and quotes needs no quotes around
it. -/
inductive Token.Written : Token → List Char → Prop where
  | open : Written .open ['(']
  | close : Written .close [')']
  | op {o : Operator} {cs : List Char} (hcs : cs.map Char.toUpper = o.word.toList) :
    Written (.op o) cs
  | bare {key value : List Char} (hkey : ':' ∉ key) (hvalue : ∀ c ∈ value, isWordChar c = true) :
    Written (.word (String.ofList (key ++ ':' :: value))) (key ++ ':' :: value)
  | quoted {key value : List Char} (hkey : ':' ∉ key) (hvalue : '"' ∉ value) :
    Written (.word (String.ofList (key ++ ':' :: value))) (key ++ ':' :: Query.quoted value)

/-- A written token may be followed by a text if a parenthesis, a quote or a blank is between them,
or the text is empty. -/
def Apart (cs rest : List Char) : Prop :=
  (∃ c, cs.getLast? = some c ∧ isDelimiter c = true) ∨
    ∀ c, rest.head? = some c → isDelimiter c = true ∧ c ≠ '"'

/-- The text writes the tokens, with any blanks between them. -/
inductive Writes : List Token → List Char → Prop where
  | nil {gap : List Char} (hgap : ∀ c ∈ gap, Unicode.isBlank c = true) : Writes [] gap
  | cons {gap cs rest : List Char} {t : Token} {ts : List Token}
    (hgap : ∀ c ∈ gap, Unicode.isBlank c = true) (ht : t.Written cs) (hapart : Apart cs rest) :
    Writes ts rest → Writes (t :: ts) (gap ++ cs ++ rest)

/-! ## Reading what was written -/

/-- The letters of an operator, in either case, are characters of words. -/
theorem isWordChar_of_toUpper {c : Char} {o : Operator} (h : c.toUpper ∈ o.word.toList) :
    isWordChar c = true ∧ c ≠ ':' := by
  have hcapital : ∀ d ∈ o.word.toList,
      decide (d.toNat < 128 ∧ isWordChar d = true ∧ d ≠ ':') = true :=
    List.all_eq_true.1 (by cases o <;> decide)
  have hletter : c.toNat < 128 → isWordChar c.toUpper = true ∧ c.toUpper ≠ ':' →
      isWordChar c = true ∧ c ≠ ':' :=
    Unicode.forall_ascii (P := fun c => isWordChar c.toUpper = true ∧ c.toUpper ≠ ':' →
      isWordChar c = true ∧ c ≠ ':') (by decide +kernel)
  obtain ⟨hlt, hupper⟩ := of_decide_eq_true (hcapital _ h)
  have hc : c.toNat < 128 := by
    unfold Char.toUpper at hlt
    split at hlt
    · rename_i hsmall
      exact Nat.lt_of_le_of_lt (UInt32.le_iff_toNat_le.1 hsmall.2) (by decide)
    · exact hlt
  exact hletter hc hupper

theorem Token.ofWord_of_map_toUpper {o : Operator} {cs : List Char}
    (h : cs.map Char.toUpper = o.word.toList) : Token.ofWord cs = .op o := by
  unfold Token.ofWord
  rw [h, String.ofList_toList]
  cases o <;> rfl

/-- What ends in a character of words is apart only from delimiters. -/
theorem Apart.isDelimiter_of_isWordChar {cs rest : List Char} {c : Char} (h : Apart cs rest)
    (hc : cs.getLast? = some c) (hword : isWordChar c = true) :
    ∀ d, rest.head? = some d → isDelimiter d = true ∧ d ≠ '"' := by
  refine h.resolve_left ?_
  rintro ⟨d, hd, hdelimiter⟩
  rw [hc] at hd
  cases hd
  rw [isWordChar, hdelimiter] at hword
  cases hword

/-- An operator is read in any case. -/
theorem scan_quoteAtoms_op {o : Operator} {cs rest : List Char}
    (hcs : cs.map Char.toUpper = o.word.toList)
    (hrest : ∀ c, rest.head? = some c → isDelimiter c = true) :
    scan (quoteAtoms (cs ++ rest)) =
      (.op o :: (scan (quoteAtoms rest)).1, (scan (quoteAtoms rest)).2) := by
  have hletters : ∀ c ∈ cs, isWordChar c = true ∧ c ≠ ':' := fun c hc =>
    isWordChar_of_toUpper (o := o) (by rw [← hcs]; exact List.mem_map_of_mem hc)
  have hatom : readAtom (cs ++ rest) = none := by
    refine readAtom_eq_none ?_ hrest
    rintro ⟨key, value, rfl, -⟩
    exact (hletters ':' (by simp)).2 rfl
  have hword := Token.ofWord_of_map_toUpper hcs
  have hstop : ∀ c, rest.head? = some c → isWordChar c = false :=
    fun c hc => isWordChar_eq_false_iff.2 (hrest c hc)
  cases cs with
  | nil => cases o <;> cases hcs
  | cons c cs =>
    have htail : ∀ d ∈ cs, isWordChar d = true :=
      fun d hd => (hletters d (List.mem_cons_of_mem c hd)).1
    rw [List.cons_append] at hatom ⊢
    rw [scan_quoteAtoms_run (hletters c List.mem_cons_self).1 hatom, takeWhile_run htail hstop,
      dropWhile_run htail hstop, hword]

/-- An atom is read as one word. -/
theorem scan_quoteAtoms_key {key value text rest : List Char} (hkey : ':' ∉ key)
    (hvalid : ∃ p, Predicate.ofWord (String.ofList (key ++ ':' :: value)) = .ok p)
    (htext : readValue text = (value, rest)) :
    scan (quoteAtoms (key ++ ':' :: text)) =
      (.word (String.ofList (key ++ ':' :: value)) :: (scan (quoteAtoms rest)).1,
        (scan (quoteAtoms rest)).2) := by
  obtain ⟨p, hp⟩ := hvalid
  obtain ⟨hne, hchars⟩ := Predicate.key_of_ofWord hkey hp
  have hatom := readAtom_key hne hchars text
  rw [htext] at hatom
  obtain ⟨k, ks, rfl⟩ := List.exists_cons_of_ne_nil hne
  exact scan_quoteAtoms_atom hatom

/-- A token is read again, however it is written. -/
theorem scan_quoteAtoms_written {t : Token} {cs rest : List Char} (ht : t.Written cs)
    (hvalid : t.IsValid) (hapart : Apart cs rest) :
    scan (quoteAtoms (cs ++ rest)) =
      (t :: (scan (quoteAtoms rest)).1, (scan (quoteAtoms rest)).2) := by
  cases ht with
  | «open» => exact scan_quoteAtoms_open
  | close => exact scan_quoteAtoms_close
  | @op o _ hcs =>
    have hne : cs ≠ [] := by
      rintro rfl
      cases o <;> cases hcs
    have hlast : isWordChar (cs.getLast hne) = true :=
      (isWordChar_of_toUpper (o := o)
        (by rw [← hcs]; exact List.mem_map_of_mem (List.getLast_mem hne))).1
    exact scan_quoteAtoms_op hcs fun c hc =>
      (hapart.isDelimiter_of_isWordChar (List.getLast?_eq_some_getLast hne) hlast c hc).1
  | @bare key value hkey hvalue =>
    have hlast : isWordChar ((':' :: value).getLast (List.cons_ne_nil _ _)) = true := by
      rcases List.mem_cons.1 (List.getLast_mem (List.cons_ne_nil ':' value)) with h | h
      · rw [h]
        decide
      · exact hvalue _ h
    have hrest := hapart.isDelimiter_of_isWordChar
      (by rw [List.getLast?_append, List.getLast?_eq_some_getLast (List.cons_ne_nil _ _),
        Option.some_or]) hlast
    rw [List.append_assoc]
    exact scan_quoteAtoms_key hkey hvalid (readValue_bare hvalue (fun c hc => (hrest c hc).1)
      fun _ hquote => (hrest '"' hquote).2 rfl)
  | @quoted key value hkey hvalue =>
    rw [List.append_assoc]
    exact scan_quoteAtoms_key hkey hvalid (readValue_quoted hvalue rest)

/-- Tokens are read again, however they are written. -/
theorem tokens_of_writes {ts : List Token} {text : List Char} (h : Writes ts text)
    (hvalid : ∀ t ∈ ts, t.IsValid) : tokens (quoteAtoms text) = .ok ts := by
  have hscan : scan (quoteAtoms text) = (ts, []) := by
    induction h with
    | @nil gap hgap =>
      have := scan_quoteAtoms_gap hgap []
      rw [List.append_nil] at this
      rw [this, quoteAtoms, scan]
    | cons hgap ht hapart _ ih =>
      rw [List.append_assoc, scan_quoteAtoms_gap hgap,
        scan_quoteAtoms_written ht (hvalid _ List.mem_cons_self) hapart,
        ih fun u hu => hvalid u (List.mem_cons_of_mem _ hu)]
  rw [tokens, hscan]

/-! ## Compiling what was written -/

/-- A text that writes an expression is compiled into the steps of the expression, and matches the
layers for which the expression is true. -/
theorem compile_of_writes {e : Expr} {ts : List Token} {text : String} (he : Phrase .or e ts)
    (ht : Writes ts text.toList) :
    ∃ q, compile text = .ok q ∧ q.steps = e.steps ∧ ∀ notes layer,
      q.isMatch notes layer = e.value fun p => layer.marker?.isSome && p.holds notes layer :=
  ⟨⟨text, e.steps⟩, compile_phrase (tokens_of_writes ht he.isValid) he, rfl,
    isMatch_of_steps_eq rfl⟩

/-- Operators in both cases, a key in mixed case, a value between quotes, and blanks or none. -/
theorem compile_of_writes_mixed :
    ∃ e ts, Phrase .or e ts ∧ Writes ts "NOT (tag:a  or Name:\"b c\")AND lines:1-2".toList ∧
      ∃ q, compile "NOT (tag:a  or Name:\"b c\")AND lines:1-2" = .ok q ∧
        q.steps = [.test (.tag ⟨"a"⟩), .test (.name "b c"), .apply .or, .apply .not,
          .test (.lines 1 2), .apply .and] ∧
        ∀ notes layer, q.isMatch notes layer =
          (!((layer.marker?.isSome && (Predicate.tag ⟨"a"⟩).holds notes layer) ||
              (layer.marker?.isSome && (Predicate.name "b c").holds notes layer)) &&
            (layer.marker?.isSome && (Predicate.lines 1 2).holds notes layer)) := by
  have hphrase : Phrase .or
      (.and (.not (.or (.test (.tag ⟨"a"⟩)) (.test (.name "b c")))) (.test (.lines 1 2)))
      [.op .not, .open, .word "tag:a", .op .or, .word "Name:b c", .close, .op .and,
        .word "lines:1-2"] :=
    .ofAnd (.and (.ofNot (.not (.group (.or (.ofAnd (.ofNot (.word (by decide +kernel))))
      (.ofNot (.word (by decide +kernel))))))) (.word (by decide +kernel)))
  have hwrites : Writes [.op .not, .open, .word "tag:a", .op .or, .word "Name:b c", .close,
      .op .and, .word "lines:1-2"] "NOT (tag:a  or Name:\"b c\")AND lines:1-2".toList := by
    have htext : "NOT (tag:a  or Name:\"b c\")AND lines:1-2".toList =
        [] ++ "NOT".toList ++ (" ".toList ++ ['('] ++ ([] ++ ("tag".toList ++ ':' :: "a".toList) ++
          ("  ".toList ++ "or".toList ++
          (" ".toList ++ ("Name".toList ++ ':' :: quoted "b c".toList) ++ ([] ++ [')'] ++
          ([] ++ "AND".toList ++ (" ".toList ++ ("lines".toList ++ ':' :: "1-2".toList) ++
          []))))))) := by decide +kernel
    have hall : ∀ {cs : List Char} {p : Char → Bool}, cs.all p = true → ∀ c ∈ cs, p c = true :=
      List.all_eq_true.1
    have hdelimiter : ∀ {cs rest : List Char} {c : Char}, isDelimiter c = true ∧ c ≠ '"' →
        Apart cs (c :: rest) := by
      rintro cs rest c hc
      exact .inr fun d hd => by cases hd; exact hc
    rw [htext]
    exact .cons nofun (.op (by decide)) (hdelimiter (by decide)) <|
      .cons (hall (by decide)) .open (.inl ⟨'(', rfl, by decide⟩) <|
      .cons nofun (@Token.Written.bare "tag".toList "a".toList (by decide) (hall (by decide)))
        (hdelimiter (by decide)) <|
      .cons (hall (by decide)) (.op (by decide)) (hdelimiter (by decide)) <|
      .cons (hall (by decide))
        (@Token.Written.quoted "Name".toList "b c".toList (by decide) (by decide))
        (.inl ⟨'"', by decide, by decide⟩) <|
      .cons nofun .close (.inl ⟨')', rfl, by decide⟩) <|
      .cons nofun (.op (by decide)) (hdelimiter (by decide)) <|
      .cons (hall (by decide))
        (@Token.Written.bare "lines".toList "1-2".toList (by decide) (hall (by decide)))
        (.inr nofun) <|
      .nil nofun
  exact ⟨_, _, hphrase, hwrites, compile_of_writes hphrase hwrites⟩

end Query

end Gazetteer
