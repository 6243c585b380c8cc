import Gazetteer.Proofs.Yaml.Extending

/-!
# Entries at the margin

The key of an entry is known as one only by its colon; up to there the scanner reads a plain scalar
(`Scanner.halt_label`).
-/

namespace Gazetteer.Yaml

namespace Scanner

variable {w t Y cs rest : List Char} {c d : Char} {s s₁ : Scanner} {f : Folded} {n : Nat}
  {token : Token}

/-! ## Plain scalars in one line -/

/-- Take in a character of a line. -/
def Folded.take (f : Folded) (c : Char) : Folded :=
  if isBlank c then f.blank c else f.push c

/-- A character that a plain scalar goes on with inside a line. -/
structure GoesOn (s : Scanner) (c : Char) : Prop where
  isBreak : isBreak c = false
  colon : c ≠ ':'
  hash : c ≠ '#'
  isFlowMark : s.flow ≠ 0 → isFlowMark c = false

/-- Where a plain scalar is in the middle of a line. -/
structure InLine (s : Scanner) (f : Folded) : Prop where
  indent : s.indent ≤ 0
  lead : f.lead = none
  blanks : f.blanks = [] ∨ 0 < s.column

theorem InLine.advance (h : InLine s f) (c : Char) : InLine s.advance (f.take c) := by
  refine ⟨h.indent, ?_, Or.inr (Nat.succ_pos _)⟩
  unfold Folded.take Folded.blank Folded.push Folded.join
  have hlead := h.lead
  split <;> simp [hlead]

/-- In the middle of a line only a comment ends a scalar because of the blanks in front of it. -/
theorem InLine.ends (h : InLine s f) (hd : d ≠ '#') :
    ((f.lead.isSome || !f.blanks.isEmpty) &&
      ((s.flow == 0 && decide ((s.column : Int) < s.indent + 1)) || s.atDocumentMark ||
        d == '#')) = false := by
  rcases h.blanks with hblanks | hcolumn
  · simp [h.lead, hblanks]
  · have hindent := h.indent
    have hdeep : ¬(s.column : Int) < s.indent + 1 := by omega
    have hmark : s.atDocumentMark = false := by simp [atDocumentMark, Nat.ne_of_gt hcolumn]
    simp [hdeep, hmark, hd]

theorem plainUpTo_take (h : InLine s f) (hd : GoesOn s d) (hr : s.rest = d :: rest) :
    plainUpTo (n + 1) s f = plainUpTo n s.advance (f.take d) := by
  have hends := h.ends hd.hash
  have hlead := h.lead
  rw [plainUpTo]
  simp only [hr, hd.isBreak, Bool.false_eq_true, if_false]
  unfold Folded.take
  split
  · simp [hlead]
  · refine (if_neg (by rw [hends]; decide)).trans ?_
    refine (if_neg (fun hcolon => hd.colon hcolon.2.1)).trans ?_
    refine if_neg ?_
    rintro (⟨hcolon, -⟩ | ⟨hflow, hmark⟩)
    · exact hd.colon hcolon
    · rw [hd.isFlowMark hflow] at hmark
      cases hmark

/-- A character behind a plain scalar in its line. -/
def EndsPlain (s : Scanner) (c : Char) (t : List Char) : Prop :=
  s.flow = 0 ∧ c = ':' ∧ endsWord t = true ∨ s.flow ≠ 0 ∧ isFlowMark c = true

theorem plainUpTo_end (h : InLine s f) (hc : EndsPlain s c t) (hr : s.rest = c :: t) :
    plainUpTo (n + 1) s f = some (s, f) := by
  have hkind : isBreak c = false ∧ isBlank c = false ∧ c ≠ '#' ∧ (s.flow ≠ 0 → c ≠ ':') := by
    rcases hc with ⟨hflow, rfl, -⟩ | ⟨-, hmark⟩
    · exact ⟨rfl, rfl, by decide, fun hne => absurd hflow hne⟩
    · unfold isFlowMark at hmark
      simp only [Bool.or_eq_true, beq_iff_eq] at hmark
      rcases hmark with (((rfl | rfl) | rfl) | rfl) | rfl <;>
        exact ⟨rfl, rfl, by decide, fun _ => by decide⟩
  obtain ⟨hbreak, hblank, hhash, hcolon⟩ := hkind
  have hends := h.ends hhash
  rw [plainUpTo]
  simp only [hr, hbreak, hblank, Bool.false_eq_true, if_false]
  refine (if_neg (by rw [hends]; decide)).trans ?_
  refine (if_neg (fun h => hcolon h.1 h.2.1)).trans (if_pos ?_)
  exact hc.imp And.right id

/-- A plain scalar goes on to the end of its text in this line. -/
theorem plainUpTo_line (h : InLine s f) (hw : ∀ d ∈ w, GoesOn s d) (hc : EndsPlain s c t)
    (hr : s.rest = w ++ c :: t) (hn : w.length < n) :
    plainUpTo n s f = some (s.advanceBy w.length, w.foldl Folded.take f) := by
  obtain ⟨n, rfl⟩ : ∃ k, n = k + 1 := ⟨n - 1, by omega⟩
  induction w generalizing s f n with
  | nil => exact plainUpTo_end h hc hr
  | cons d w ih =>
    obtain ⟨m, rfl⟩ : ∃ k, n = k + 1 := ⟨n - 1, by simp at hn; omega⟩
    rw [plainUpTo_take h (hw d List.mem_cons_self) hr,
      ih (s := s.advance) (h.advance d) (fun e he => ?_) hc (by simp [hr]) m (by simp at hn; omega)]
    · simp [advanceBy, advance, Nat.add_comm, Nat.add_left_comm]
    · obtain ⟨hbreak, hcolon, hhash, hmark⟩ := hw e (List.mem_cons_of_mem _ he)
      exact ⟨hbreak, hcolon, hhash, hmark⟩

theorem Folded.take_of_not_blank (h : isBlank d = false) (hlead : f.lead = none)
    (hblanks : f.blanks = []) : f.take d = { text := d :: f.text } := by
  simp [Folded.take, Folded.push, Folded.join, h, hlead, hblanks]

/-- Without blanks a scalar is the text as it stands. -/
theorem foldl_take (hw : ∀ d ∈ w, isBlank d = false) (cs : List Char) :
    w.foldl Folded.take { text := cs } = { text := w.reverse ++ cs } := by
  induction w generalizing cs with
  | nil => rfl
  | cons d w ih =>
    rw [List.foldl_cons, Folded.take_of_not_blank (hw d List.mem_cons_self) rfl rfl,
      ih fun e he => hw e (List.mem_cons_of_mem _ he)]
    simp

/-- The text of a plain scalar in one line. -/
def lineText (w : List Char) : String :=
  String.ofList (w.foldl Folded.take {}).text.reverse

theorem lineText_of_not_blank (hw : ∀ d ∈ w, isBlank d = false) : lineText w = String.ofList w := by
  rw [lineText, show ({} : Folded) = { text := [] } from rfl, foldl_take hw]
  simp

theorem lead_foldl_take (hlead : f.lead = none) (w : List Char) :
    (w.foldl Folded.take f).lead = none := by
  induction w generalizing f with
  | nil => exact hlead
  | cons d w ih =>
    refine ih ?_
    unfold Folded.take Folded.blank Folded.push Folded.join
    split <;> simp [hlead]

/-- The key that may start here. -/
def keyHere (s : Scanner) : Option PossibleKey :=
  if s.keyAllowed then
    some ⟨s.flow == 0 && s.indent == (s.column : Int), s.tokens.length, s.index, s.line, s.column⟩
  else none

theorem saveKey_eq (h : s.possible = none) :
    s.saveKey = some { s with possible := s.keyHere } := by
  unfold saveKey dropKey keyHere
  simp only [h]
  by_cases hk : s.keyAllowed = true
  · rw [if_pos hk, if_pos hk]
    rfl
  · rw [if_neg hk, if_neg hk, ← h]

/-- Behind a scalar in one line. -/
def behindScalar (s : Scanner) (w : List Char) (token : Token) (t : List Char) : Scanner :=
  { s with
    rest := t
    index := s.index + w.length
    column := s.column + w.length
    keyAllowed := false
    possible := s.keyHere
    tokens := token :: s.tokens }

/-- A plain scalar that ends in its line. -/
theorem plain_line (h : s.possible = none) (hindent : s.indent ≤ 0) (hw : ∀ d ∈ w, GoesOn s d)
    (hc : EndsPlain s c t) (hr : s.rest = w ++ c :: t) :
    s.plain = some (s.behindScalar w (.scalar (lineText w) true) (c :: t)) := by
  have hscalar := plainUpTo_line (s := { s with keyAllowed := false, possible := s.keyHere })
    (f := {}) (n := s.rest.length + 1) ⟨hindent, rfl, Or.inl rfl⟩
    (fun d hd => ⟨(hw d hd).isBreak, (hw d hd).colon, (hw d hd).hash, (hw d hd).isFlowMark⟩) hc hr
    (by simp only [hr, List.length_append, List.length_cons]; omega)
  unfold plain
  rw [saveKey_eq h]
  refine (congrArg (Option.bind · _) hscalar).trans ?_
  simp [advanceBy, emit, behindScalar, hr, lineText, lead_foldl_take]

/-! ## Scalars in quotes in one line -/

theorem atDocumentMark_of_column (h : s.column ≠ 0) : s.atDocumentMark = false := by
  simp [atDocumentMark, h]

theorem Folded.join_of_lead (hlead : f.lead = none) : f.join = { text := f.blanks ++ f.text } := by
  simp [Folded.join, hlead]

/-- Blanks count in quotes. -/
theorem join_foldl_take (hlead : f.lead = none) (w : List Char) :
    (w.foldl Folded.take f).join.text = w.reverse ++ f.join.text := by
  induction w generalizing f with
  | nil => rfl
  | cons d w ih =>
    have hlead' : (f.take d).lead = none := lead_foldl_take hlead [d]
    have htake : (f.take d).join.text = d :: f.join.text := by
      rw [Folded.join_of_lead hlead', Folded.join_of_lead hlead]
      unfold Folded.take Folded.blank Folded.push
      split <;> simp [hlead, Folded.join_of_lead hlead]
    rw [List.foldl_cons, ih hlead', htake]
    simp

/-- A text that stands in quotes as it is. -/
structure IsQuotable (d : Char) (w : List Char) : Prop where
  quote : d = '"' ∨ d = '\''
  line : ∀ c ∈ w, isBreak c = false ∧ c ≠ d ∧ c ≠ '\\'

theorem quotedUpTo_line (hw : IsQuotable d w) (hcolumn : s.column ≠ 0)
    (hr : s.rest = w ++ d :: t) (ht : t.head? ≠ some '\'') (hn : w.length < n) :
    quotedUpTo d n s f = some (s.advanceBy (w.length + 1), (w.foldl Folded.take f).join) := by
  have hkind : isBreak d = false ∧ isBlank d = false := by
    rcases hw.quote with rfl | rfl <;> exact ⟨rfl, rfl⟩
  induction w generalizing s f n with
  | nil =>
    obtain ⟨n, rfl⟩ : ∃ k, n = k + 1 := ⟨n - 1, by simp at hn; omega⟩
    rw [quotedUpTo]
    simp [atDocumentMark_of_column hcolumn, hr, hkind, ht, advanceBy, advance]
  | cons c w ih =>
    obtain ⟨n, rfl⟩ : ∃ k, n = k + 1 := ⟨n - 1, by simp at hn; omega⟩
    obtain ⟨hbreak, hquote, hbackslash⟩ := hw.line c List.mem_cons_self
    have hstep : quotedUpTo d (n + 1) s f = quotedUpTo d n s.advance (f.take c) := by
      rw [quotedUpTo]
      unfold Folded.take
      simp only [atDocumentMark_of_column hcolumn, hr, List.cons_append, hbreak, hquote, hbackslash,
        Bool.false_eq_true, if_false, and_false]
      split <;> rfl
    rw [hstep, ih (s := s.advance) ⟨hw.quote, fun e he => hw.line e (List.mem_cons_of_mem _ he)⟩
      (Nat.succ_ne_zero _) (by simp [hr]) (by simp at hn; omega)]
    simp [advanceBy, advance, Nat.add_comm, Nat.add_left_comm]

/-- A scalar in quotes that ends in its line. -/
theorem quoted_line (h : s.possible = none) (hw : IsQuotable d w) (hc : c ≠ '\'')
    (hr : s.rest = d :: (w ++ d :: c :: t)) :
    s.quoted d = some (s.behindScalar (d :: (w ++ [d])) (.scalar (String.ofList w) false)
      (c :: t)) := by
  have hscalar := quotedUpTo_line
    (s := ({ s with keyAllowed := false, possible := s.keyHere } : Scanner).advance) (f := {})
    (n := s.advance.rest.length + 1) hw (Nat.succ_ne_zero _) (t := c :: t) (by simp [hr])
    (by simpa using hc)
    (by simp only [rest_advance, hr, List.length_drop, List.length_append, List.length_cons]; omega)
  have htext : (w.foldl Folded.take {}).join.text.reverse = w := by
    rw [join_foldl_take rfl]
    simp [Folded.join]
  unfold quoted
  rw [saveKey_eq h]
  refine (congrArg (Option.bind · _) hscalar).trans ?_
  simp [advanceBy, advance, emit, behindScalar, hr, htext]
  omega

/-! ## The key of an entry -/

theorem not_indicator_ne (hc : isIndicator c = false) {d : Char} (hd : isIndicator d = true) :
    c ≠ d := by
  rintro rfl
  rw [hc] at hd
  cases hd

/-- A character with which a plain scalar starts. -/
theorem token_of_not_indicator (hc : isIndicator c = false) (hmark : s.atDocumentMark = false)
    (rest : List Char) : s.token c rest = s.plain := by
  have hne : ∀ d, isIndicator d = true → c ≠ d := fun d => not_indicator_ne hc
  unfold token
  simp [hmark, hc, hne '%' rfl, hne '[' rfl, hne '\x7b' rfl, hne ']' rfl, hne '\x7d' rfl,
    hne ',' rfl, hne '-' rfl, hne '?' rfl, hne ':' rfl, hne '*' rfl, hne '&' rfl, hne '!' rfl,
    hne '|' rfl, hne '>' rfl, hne '\'' rfl, hne '"' rfl]

theorem token_colon (h : s.column ≠ 0) (ht : endsWord t = true) : s.token ':' t = s.value := by
  unfold token
  simp [atDocumentMark_of_column h, ht]

/-- At a token there is nothing to pass over. -/
theorem settle_of_skip (h : s.skip = none) (hkey : s.dropStaleKey = some s₁)
    (hindent : s₁.indent ≤ s₁.column) : s.settle = some s₁ := by
  have hskip : skipToToken (s.rest.length + 1) s = s := by
    rw [skipToToken_succ, h]
    rfl
  rw [settle, hskip, hkey, Option.map_some, unindentTo_of_le hindent]

/-- A possible key that need not be one is given up. -/
theorem dropKey_of_not_required (h : ∀ k ∈ s.possible, k.required = false) :
    s.dropKey = some { s with possible := none } := by
  unfold dropKey
  cases hk : s.possible with
  | none => simp [← hk]
  | some k => simp [h k hk]

theorem dropStaleKey_of_not_required (h : ∀ k ∈ s.possible, k.required = false) :
    s.dropStaleKey = some s ∨ s.dropStaleKey = some { s with possible := none } := by
  unfold dropStaleKey
  cases hk : s.possible with
  | none => exact Or.inl rfl
  | some k =>
    rw [dropKey_of_not_required h]
    simp only
    split
    · exact Or.inr rfl
    · exact Or.inl rfl

/-- The quote that starts a scalar in quotes. -/
theorem token_quote (hw : IsQuotable d w) (hmark : s.atDocumentMark = false) (rest : List Char) :
    s.token d rest = s.quoted d := by
  unfold token
  rcases hw.quote with rfl | rfl <;> simp [hmark]

/-- The text of a plain key: something in one line that a plain scalar can be, without a colon. -/
structure IsLabel (w : List Char) : Prop where
  start : ∃ c rest, w = c :: rest ∧ isIndicator c = false ∧ c ≠ '.'
  line : ∀ c ∈ w, isBreak c = false ∧ c ≠ ':' ∧ c ≠ '#'
  length : w.length ≤ 1024

/-- The text of a key in one line, and its token. -/
inductive IsKey : List Char → Token → Prop
  | plain {w : List Char} (h : IsLabel w) : IsKey w (.scalar (lineText w) true)
  | quoted {d : Char} {w : List Char} (h : IsQuotable d w) (hlength : w.length + 2 ≤ 1024) :
    IsKey (d :: (w ++ [d])) (.scalar (String.ofList w) false)

theorem IsKey.length (h : IsKey w token) : w.length ≤ 1024 := by
  cases h with
  | plain h => exact h.length
  | quoted h hlength =>
    simp only [List.length_cons, List.length_append, List.length_nil]
    omega

/-- A key starts with something that is seen as text. -/
theorem IsKey.start (h : IsKey w token) : ∃ c rest, w = c :: rest ∧ isBlank c = false ∧
    isBreak c = false ∧ c ≠ '#' := by
  cases h with
  | plain h =>
    obtain ⟨c, rest, rfl, hc, -⟩ := h.start
    unfold isIndicator at hc
    simp only [Bool.or_eq_false_iff] at hc
    exact ⟨c, rest, rfl, hc.1.2, hc.2, (h.line c List.mem_cons_self).2.2⟩
  | quoted h =>
    refine ⟨_, _, rfl, ?_⟩
    rcases h.quote with rfl | rfl <;> exact ⟨rfl, rfl, by decide⟩

/-- Where an entry of a mapping at the margin can start. -/
structure AtEntry (s : Scanner) : Prop where
  column : s.column = 0
  flow : s.flow = 0
  indent : s.indent ≤ 0
  keyAllowed : s.keyAllowed = true
  possible : s.possible = none

theorem token_key (hs : s.AtEntry) (h : IsKey w token) (ht : endsWord t = true)
    (hr : s.rest = w ++ ':' :: t) : ∃ c rest, s.rest = c :: rest ∧
      s.token c rest = some (s.behindScalar w token (':' :: t)) := by
  obtain ⟨hcolumn, hflow, hindent, -, hpossible⟩ := hs
  cases h with
  | plain hw =>
    obtain ⟨c, rest, hcons, hc, hdot⟩ := hw.start
    have hr' : s.rest = c :: (rest ++ ':' :: t) := by rw [hr, hcons, List.cons_append]
    have hmark : s.atDocumentMark = false := by
      have hdash : c ≠ '-' := not_indicator_ne hc rfl
      unfold atDocumentMark
      rw [hr']
      split <;> simp_all
    refine ⟨c, _, hr', ?_⟩
    rw [token_of_not_indicator hc hmark]
    exact plain_line hpossible hindent (fun d hd => ⟨(hw.line d hd).1, (hw.line d hd).2.1,
      (hw.line d hd).2.2, fun h => absurd hflow h⟩) (Or.inl ⟨hflow, rfl, ht⟩) hr
  | @quoted d w hw =>
    have hr' : s.rest = d :: (w ++ d :: ':' :: t) := by simp [hr]
    have hmark : s.atDocumentMark = false := by
      unfold atDocumentMark
      rw [hr']
      rcases hw.quote with rfl | rfl <;> simp
    refine ⟨d, _, hr', ?_⟩
    rw [token_quote hw hmark]
    exact quoted_line hpossible hw (by decide) hr'

/-- The state behind the colon of an entry at the margin. -/
def behindKey (s : Scanner) (w : List Char) (token : Token) (t : List Char) : Scanner :=
  { s with
    rest := t
    index := s.index + w.length + 1
    column := w.length + 1
    indent := 0
    outer := if s.indent < 0 then s.indent :: s.outer else s.outer
    keyAllowed := false
    tokens := .value :: token :: .key ::
      if s.indent < 0 then .blockMappingStart :: s.tokens else s.tokens }

/-- **A key is read up to its colon.** -/
theorem halt_key (hs : s.AtEntry) (hw : IsKey w token) (ht : endsWord t = true)
    (hr : s.rest = w ++ ':' :: t) : s.halt = (s.behindKey w token t).stop := by
  obtain ⟨c, rest, hr', htoken⟩ := token_key hs hw ht hr
  obtain ⟨hcolumn, hflow, hindent, hkey, hpossible⟩ := hs
  have hpos : 0 < w.length := by
    obtain ⟨c, rest, rfl, -⟩ := hw.start
    simp
  have hlength := hw.length
  rw [halt_of_cons hr', htoken, Option.bind_some, stop_eq]
  generalize hs₁ : s.behindScalar w token (':' :: t) = s₁
  have hrest : s₁.rest = ':' :: t := hs₁ ▸ rfl
  have hkey₁ : s₁.possible = some ⟨s.flow == 0 && s.indent == (s.column : Int), s.tokens.length,
      s.index, s.line, s.column⟩ := by
    rw [← hs₁]
    exact if_pos hkey
  have hcolumn₁ : s₁.column = w.length := by
    rw [← hs₁]
    simp [behindScalar, hcolumn]
  have hstale : s₁.dropStaleKey = some s₁ := by
    unfold dropStaleKey
    rw [hkey₁, ← hs₁]
    exact if_neg (by simp [behindScalar]; omega)
  have hindent₁ : s₁.indent ≤ (s₁.column : Int) := by
    rw [← hs₁]
    simp only [behindScalar]
    omega
  rw [settle_of_skip (by simp [skip, hrest, isBreak]) hstale hindent₁, Option.bind_some]
  -- the colon
  rw [halt_of_cons hrest, token_colon (by omega) ht, value_of_some hkey₁, Option.bind_some, ← hs₁]
  have hlater : s.tokens.length + 1 + 1 - s.tokens.length = 2 := by omega
  have hdeep : s.indent < 0 ∨ s.indent = 0 := by omega
  rcases hdeep with hdeep | hdeep
  · simp [behindKey, behindScalar, insert, indentTo, emit, advance, hflow, hcolumn, hpossible,
      hdeep, hlater]
  · simp [behindKey, behindScalar, insert, indentTo, emit, advance, hflow, hcolumn, hpossible,
      hdeep]

/-! ## The items of a flow sequence -/

/-- The text of an item: something that a plain scalar can be inside a flow sequence. -/
structure IsItem (w : List Char) : Prop where
  start : ∃ c rest, w = c :: rest ∧ (isIndicator c = false ∨ c = '-' ∧ endsWord rest = false)
  line : ∀ c ∈ w, isBreak c = false ∧ c ≠ ':' ∧ c ≠ '#' ∧ isFlowMark c = false

/-- Where an item of a flow sequence can start, behind the key of an entry at the margin. -/
structure AtItem (s : Scanner) : Prop where
  column : s.column ≠ 0
  flow : s.flow ≠ 0
  indent : s.indent = 0
  keyAllowed : s.keyAllowed = true
  possible : s.possible = none

theorem token_item (hs : s.AtItem) (hc : isIndicator c = false ∨ c = '-' ∧ endsWord rest = false) :
    s.token c rest = s.plain := by
  have hmark := atDocumentMark_of_column hs.column
  rcases hc with hc | ⟨rfl, hrest⟩
  · exact token_of_not_indicator hc hmark rest
  · have hblank : (!rest.head?.any isBlank) = true := by
      cases rest with
      | nil => rfl
      | cons d rest => simp_all [endsWord]
    unfold token
    simp [hmark, hrest, hblank, isIndicator]

/-- Behind an item, in front of the mark that ends it. -/
def behindItem (s : Scanner) (w t : List Char) : Scanner :=
  { s with
    rest := t
    index := s.index + w.length
    column := s.column + w.length
    keyAllowed := false
    tokens := .scalar (lineText w) true :: s.tokens }

theorem skip_of_isFlowMark (hc : isFlowMark c = true) (hr : s.rest = c :: t) : s.skip = none := by
  unfold isFlowMark at hc
  simp only [Bool.or_eq_true, beq_iff_eq] at hc
  unfold skip
  rcases hc with (((rfl | rfl) | rfl) | rfl) | rfl <;> simp [hr, isBreak]

/-- A possible key that need not be one is given up in front of a mark, as too far away or by the
mark. -/
theorem settle_bind_halt_of_not_required (hrequired : ∀ k ∈ s.possible, k.required = false)
    (hskip : s.skip = none) (hindent : s.indent ≤ s.column) (hcolumn : s.column ≠ 0)
    (hr : s.rest = c :: t) {g : Scanner → Option Scanner}
    (hg : ∀ s' : Scanner, s'.column ≠ 0 → s'.token c t = s'.dropKey.bind g) :
    s.settle.bind halt = (g { s with possible := none }).bind stop := by
  rcases dropStaleKey_of_not_required hrequired with hstale | hstale
  · rw [settle_of_skip hskip hstale hindent, Option.bind_some, halt_of_cons hr, hg s hcolumn,
      dropKey_of_not_required hrequired, Option.bind_some]
  · have hnone : ∀ k ∈ ({ s with possible := none } : Scanner).possible, k.required = false :=
      fun k hk => nomatch hk
    have hr' : ({ s with possible := none } : Scanner).rest = c :: t := hr
    rw [settle_of_skip hskip hstale hindent, Option.bind_some, halt_of_cons hr',
      hg { s with possible := none } hcolumn, dropKey_of_not_required hnone, Option.bind_some]

/-- **An item is read up to the mark behind it.** It is no key. -/
theorem halt_item (hs : s.AtItem) (hw : IsItem w) (hc : isFlowMark c = true)
    (hr : s.rest = w ++ c :: t) {g : Scanner → Option Scanner}
    (hg : ∀ s' : Scanner, s'.column ≠ 0 → s'.token c t = s'.dropKey.bind g) :
    s.halt = (g (s.behindItem w (c :: t))).bind stop := by
  obtain ⟨hcolumn, hflow, hindent, hkey, hpossible⟩ := hs
  obtain ⟨d, rest, hcons, hd⟩ := hw.start
  have hr' : s.rest = d :: (rest ++ c :: t) := by rw [hr, hcons, List.cons_append]
  have hd' : isIndicator d = false ∨ d = '-' ∧ endsWord (rest ++ c :: t) = false := by
    refine hd.imp_right fun h => ⟨h.1, ?_⟩
    cases rest with
    | nil => cases h.2
    | cons e rest => exact h.2
  have hplain := plain_line (w := w) (c := c) (t := t) hpossible (by omega)
    (fun d hd => ⟨(hw.line d hd).1, (hw.line d hd).2.1, (hw.line d hd).2.2.1,
      fun _ => (hw.line d hd).2.2.2⟩) (Or.inr ⟨hflow, hc⟩) hr
  rw [halt_of_cons hr', token_item ⟨hcolumn, hflow, hindent, hkey, hpossible⟩ hd', hplain,
    Option.bind_some, stop_eq]
  have hrequired : ∀ k ∈ (s.behindScalar w (.scalar (lineText w) true) (c :: t)).possible,
      k.required = false := by
    intro k hk
    simp only [behindScalar, keyHere, hkey, if_true, Option.mem_some] at hk
    rw [← hk]
    simp [hflow]
  have hcolumn₁ : (s.behindScalar w (.scalar (lineText w) true) (c :: t)).column =
      s.column + w.length := rfl
  have hindent₁ : (s.behindScalar w (.scalar (lineText w) true) (c :: t)).indent = 0 := hindent
  have hdrop : { s.behindScalar w (.scalar (lineText w) true) (c :: t) with possible := none } =
      s.behindItem w (c :: t) := by
    rw [behindItem, ← hpossible]
    rfl
  rw [settle_bind_halt_of_not_required hrequired (skip_of_isFlowMark hc rfl) (by omega) (by omega)
    rfl hg, hdrop]

/-! ## A pair of items as the value of an entry -/

variable {a b : List Char}

theorem skip_of_indicator (hc : isIndicator c = false ∨ c = '-') (hr : s.rest = c :: rest) :
    s.skip = none := by
  have hkind : isBreak c = false ∧ c ≠ ' ' ∧ c ≠ '\t' ∧ c ≠ '#' := by
    rcases hc with hc | rfl
    · refine ⟨?_, not_indicator_ne hc rfl, not_indicator_ne hc rfl, not_indicator_ne hc rfl⟩
      unfold isIndicator at hc
      exact (Bool.or_eq_false_iff.1 hc).2
    · exact ⟨rfl, by decide, by decide, by decide⟩
  unfold skip
  simp [hr, hkind]

theorem skip_item (hw : IsItem w) (hr : s.rest = w ++ cs) : s.skip = none := by
  obtain ⟨c, rest, rfl, hc⟩ := hw.start
  exact skip_of_indicator (hc.imp_right And.left) hr

/-- A blank in front of a token is passed over. -/
theorem settle_blank (hr : s.rest = ' ' :: rest) (hskip : s.advance.skip = none)
    (hpossible : s.possible = none) (hindent : s.indent = 0) : s.settle = some s.advance := by
  have hblank : s.skip = some s.advance := by simp [skip, hr]
  have hpass : skipToToken (s.rest.length + 1) s = s.advance := by
    rw [skipToToken_succ, hblank, hr, List.length_cons]
    show skipToToken (rest.length + 1) s.advance = s.advance
    rw [skipToToken_succ, hskip]
    rfl
  have hkey : s.advance.dropStaleKey = some s.advance := by
    simp [dropStaleKey, advance, hpossible]
  rw [settle, hpass, hkey, Option.map_some, unindentTo_of_le]
  show s.indent ≤ ((s.column + 1 : Nat) : Int)
  omega

theorem token_open (h : s.column ≠ 0) (t : List Char) :
    s.token '[' t = s.openFlow .flowSequenceStart := by
  unfold token
  simp [atDocumentMark_of_column h]

theorem token_comma (h : s.column ≠ 0) (t : List Char) : s.token ',' t = s.flowEntry := by
  unfold token
  simp [atDocumentMark_of_column h]

theorem token_close (h : s.column ≠ 0) (t : List Char) :
    s.token ']' t = s.closeFlow .flowSequenceEnd := by
  unfold token
  simp [atDocumentMark_of_column h]

/-- Inside a sequence with one blank in front of it. -/
def inSequence (s : Scanner) (t : List Char) : Scanner :=
  { s with
    rest := t
    index := s.index + 2
    column := s.column + 2
    possibleOuter := none :: s.possibleOuter
    flow := 1
    keyAllowed := true
    tokens := .flowSequenceStart :: s.tokens }

theorem stop_inSequence (hflow : s.flow = 0) (hindent : s.indent = 0) (hkey : s.keyAllowed = false)
    (hpossible : s.possible = none) (hr : s.rest = ' ' :: '[' :: t) :
    s.stop = (s.inSequence t).stop := by
  have hopen : s.advance.openFlow .flowSequenceStart = some (s.inSequence t) := by
    unfold openFlow
    rw [saveKey_eq (s := s.advance) hpossible]
    simp [advance, emit, inSequence, keyHere, hkey, hflow, hr, hpossible]
  rw [stop_eq, settle_blank hr (by simp [skip, advance, hr, isBreak]) hpossible hindent,
    Option.bind_some]
  have hr' : s.advance.rest = '[' :: t := by simp [hr]
  rw [halt_of_cons hr', token_open (Nat.succ_ne_zero _), hopen, Option.bind_some]

/-- At the next item, behind the comma and one blank. -/
def nextItem (s : Scanner) (w t : List Char) : Scanner :=
  { s with
    rest := t
    index := s.index + w.length + 2
    column := s.column + w.length + 2
    tokens := .flowEntry :: .scalar (lineText w) true :: s.tokens }

theorem AtItem.nextItem (h : s.AtItem) (w t : List Char) : (s.nextItem w t).AtItem :=
  ⟨Nat.succ_ne_zero _, h.flow, h.indent, h.keyAllowed, h.possible⟩

theorem stop_nextItem (hs : s.AtItem) (ha : IsItem a) (hb : IsItem b)
    (hr : s.rest = a ++ ',' :: ' ' :: (b ++ t)) : s.stop = (s.nextItem a (b ++ t)).halt := by
  have hcomma : ∀ s' : Scanner, s'.column ≠ 0 → s'.token ',' (' ' :: (b ++ t)) =
      s'.dropKey.bind fun s => some (({ s with keyAllowed := true }.advance).emit .flowEntry) :=
    fun s' hs' => token_comma hs' _
  have hkey : s.dropStaleKey = some s := by simp [dropStaleKey, hs.possible]
  have hnext : (({ s.behindItem a (',' :: ' ' :: (b ++ t)) with keyAllowed := true }.advance).emit
      .flowEntry).advance = s.nextItem a (b ++ t) := by
    simp [Scanner.nextItem, behindItem, advance, emit, hs.keyAllowed]
  have hskip : (s.nextItem a (b ++ t)).skip = none := skip_item hb rfl
  rw [← hnext] at hskip
  rw [stop_eq, settle_of_skip (skip_item ha hr) hkey (by rw [hs.indent]; omega), Option.bind_some,
    halt_item hs ha rfl hr hcomma, Option.bind_some, stop_eq,
    settle_blank rfl hskip hs.possible hs.indent, Option.bind_some]
  exact congrArg halt hnext

/-- Behind the last item and the bracket. -/
def lastItem (s : Scanner) (w t : List Char) : Scanner :=
  { s with
    rest := t
    index := s.index + w.length + 1
    column := s.column + w.length + 1
    flow := s.flow - 1
    keyAllowed := false
    possible := (s.possibleOuter.head?).join
    possibleOuter := s.possibleOuter.tail
    tokens := .flowSequenceEnd :: .scalar (lineText w) true :: s.tokens }

theorem halt_lastItem (hs : s.AtItem) (hb : IsItem b) (hr : s.rest = b ++ ']' :: t)
    (houter : s.possibleOuter ≠ []) : s.halt = (s.lastItem b t).stop := by
  obtain ⟨k, ks, hk⟩ := List.exists_cons_of_ne_nil houter
  rw [halt_item hs hb rfl hr fun s' hs' => token_close hs' t]
  simp [behindItem, lastItem, advance, emit, hk]

/-- Behind a pair of items. -/
def behindPair (s : Scanner) (a b t : List Char) : Scanner :=
  { s with
    rest := t
    index := s.index + a.length + b.length + 5
    column := s.column + a.length + b.length + 5
    tokens := .flowSequenceEnd :: .scalar (lineText b) true :: .flowEntry ::
      .scalar (lineText a) true :: .flowSequenceStart :: s.tokens }

/-- **A pair of items is read up to its bracket.** -/
theorem stop_pair (ha : IsItem a) (hb : IsItem b) (hflow : s.flow = 0) (hindent : s.indent = 0)
    (hkey : s.keyAllowed = false) (hpossible : s.possible = none)
    (hr : s.rest = " [".toList ++ (a ++ (", ".toList ++ (b ++ ']' :: t)))) :
    s.stop = (s.behindPair a b t).stop := by
  have hr' : s.rest = ' ' :: '[' :: (a ++ ',' :: ' ' :: (b ++ ']' :: t)) := hr
  have hitem : (s.inSequence (a ++ ',' :: ' ' :: (b ++ ']' :: t))).AtItem :=
    ⟨Nat.succ_ne_zero _, Nat.one_ne_zero, hindent, rfl, hpossible⟩
  rw [stop_inSequence hflow hindent hkey hpossible hr', stop_nextItem hitem ha hb rfl,
    halt_lastItem (hitem.nextItem _ _) hb rfl (by simp [nextItem, inSequence])]
  congr 1
  simp [lastItem, nextItem, inSequence, behindPair, hflow, hpossible, ← hkey]
  omega

end Scanner

end Gazetteer.Yaml
