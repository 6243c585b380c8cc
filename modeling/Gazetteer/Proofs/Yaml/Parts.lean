import Gazetteer.Proofs.Yaml.Entries

/-!
# A mapping in parts

The lines of a mapping at the margin can be cut in front of any of its keys: each part is scanned on
its own (`Holds`), and the tokens of the whole are those of its parts (`Holds.append`).
-/

namespace Gazetteer.Yaml

variable {cs ds w t Y : List Char} {ts us : List Token} {a b : List Char}
  {token : Token}

namespace Scanner

variable {s s₁ e : Scanner} {n : Nat}

/-! ## The margin -/

/-- At a text in the middle of a mapping at the margin. -/
def margin (cs : List Char) : Scanner := { rest := cs, indent := 0, outer := [-1] }

/-- Between two entries of a mapping at the margin. -/
structure AtMargin (s : Scanner) : Prop where
  column : s.column = 0
  indent : s.indent = 0
  outer : s.outer = [-1]
  flow : s.flow = 0
  keyAllowed : s.keyAllowed = true
  possible : s.possible = none
  possibleOuter : s.possibleOuter = []

instance (s : Scanner) : Decidable s.AtMargin :=
  decidable_of_iff (s.column = 0 ∧ s.indent = 0 ∧ s.outer = [-1] ∧ s.flow = 0 ∧
      s.keyAllowed = true ∧ s.possible = none ∧ s.possibleOuter.isEmpty = true)
    ⟨fun ⟨h₁, h₂, h₃, h₄, h₅, h₆, h₇⟩ => ⟨h₁, h₂, h₃, h₄, h₅, h₆, List.isEmpty_iff.1 h₇⟩,
      fun h => ⟨h.column, h.indent, h.outer, h.flow, h.keyAllowed, h.possible,
        List.isEmpty_iff.2 h.possibleOuter⟩⟩

theorem atMargin_margin (cs : List Char) : (margin cs).AtMargin :=
  ⟨rfl, rfl, rfl, rfl, rfl, rfl, rfl⟩

theorem AtMargin.isOpen (h : s.AtMargin) : s.IsOpen :=
  ⟨h.column, h.flow, Int.le_of_eq h.indent.symm⟩

theorem AtMargin.atEntry (h : s.AtMargin) : s.AtEntry :=
  ⟨h.column, h.flow, Int.le_of_eq h.indent, h.keyAllowed, h.possible⟩

theorem atMargin_shift {i l : Nat} {base : List Token} :
    (s.shift i l base).AtMargin ↔ s.AtMargin := by
  constructor
  · rintro ⟨h₁, h₂, h₃, h₄, h₅, h₆, h₇⟩
    exact ⟨h₁, h₂, h₃, h₄, h₅, Option.map_eq_none_iff.1 h₆, List.map_eq_nil_iff.1 h₇⟩
  · rintro ⟨h₁, h₂, h₃, h₄, h₅, h₆, h₇⟩
    exact ⟨h₁, h₂, h₃, h₄, h₅, Option.map_eq_none_iff.2 h₆, List.map_eq_nil_iff.2 h₇⟩

/-- At the margin only what has been scanned makes a difference. -/
theorem AtMargin.eq_shift (h : s.AtMargin) :
    s = (margin s.rest).shift s.index s.line s.tokens := by
  obtain ⟨hcolumn, hindent, houter, hflow, hkey, hpossible, hpossibleOuter⟩ := h
  obtain ⟨rest, index, line, column, indent, outer, flow, keyAllowed, possible, possibleOuter,
    tokens⟩ := s
  simp_all [Scanner.shift, margin]

/-! ## In front of the first key -/

/-- Blanks, comments and line breaks are passed over with everything that is open left open. -/
structure Passes (s s₁ : Scanner) : Prop where
  indent : s₁.indent = s.indent
  outer : s₁.outer = s.outer
  flow : s₁.flow = s.flow
  possible : s₁.possible = s.possible
  possibleOuter : s₁.possibleOuter = s.possibleOuter
  tokens : s₁.tokens = s.tokens
  keyAllowed : s.keyAllowed = true → s₁.keyAllowed = true

theorem Passes.trans {s₂ : Scanner} (h : Passes s s₁) (h' : Passes s₁ s₂) : Passes s s₂ :=
  ⟨h'.indent.trans h.indent, h'.outer.trans h.outer, h'.flow.trans h.flow,
    h'.possible.trans h.possible, h'.possibleOuter.trans h.possibleOuter, h'.tokens.trans h.tokens,
    h'.keyAllowed ∘ h.keyAllowed⟩

theorem passes_advanceLine (s : Scanner) : Passes s s.advanceLine := by
  unfold advanceLine
  split <;> exact ⟨rfl, rfl, rfl, rfl, rfl, rfl, id⟩

theorem passes_of_skip (h : s.skip = some s₁) : Passes s s₁ := by
  unfold skip at h
  cases hr : s.rest with
  | nil => simp [hr] at h
  | cons c rest =>
    simp only [hr] at h
    rcases ite_eq_iff.1 h with ⟨-, h⟩ | ⟨-, h⟩
    · obtain rfl := Option.some.inj h
      exact ⟨rfl, rfl, rfl, rfl, rfl, rfl, id⟩
    rcases ite_eq_iff.1 h with ⟨-, h⟩ | ⟨-, h⟩
    · obtain rfl := Option.some.inj h
      exact ⟨rfl, rfl, rfl, rfl, rfl, rfl, id⟩
    rcases ite_eq_iff.1 h with ⟨-, h⟩ | ⟨-, h⟩
    · obtain rfl := Option.some.inj h
      refine (passes_advanceLine s).trans ?_
      split <;> exact ⟨rfl, rfl, rfl, rfl, rfl, rfl, fun h => by first | rfl | exact h⟩
    · cases h

theorem passes_skipToToken (n : Nat) (s : Scanner) : Passes s (skipToToken n s) := by
  induction n generalizing s with
  | zero => exact ⟨rfl, rfl, rfl, rfl, rfl, rfl, id⟩
  | succ n ih =>
    rw [skipToToken_succ]
    cases hs : s.skip with
    | none => exact ⟨rfl, rfl, rfl, rfl, rfl, rfl, id⟩
    | some s' => exact (passes_of_skip hs).trans (ih s')

/-- At the first token of a text that goes on with a mapping at the margin. -/
def first (cs : List Char) : Scanner := skipToToken (cs.length + 1) (margin cs)

theorem tokens_first (cs : List Char) : (first cs).tokens = [] :=
  (passes_skipToToken (cs.length + 1) (margin cs)).tokens

theorem atMargin_first (h : (first cs).column = 0) : (first cs).AtMargin := by
  have hpasses := passes_skipToToken (cs.length + 1) (margin cs)
  exact ⟨h, hpasses.indent, hpasses.outer, hpasses.flow, hpasses.keyAllowed rfl, hpasses.possible,
    hpasses.possibleOuter⟩

theorem settle_margin (h : (first cs).column = 0) : (margin cs).settle = some (first cs) := by
  have hmargin := atMargin_first h
  have hkey : (first cs).dropStaleKey = some (first cs) := by
    simp [dropStaleKey, hmargin.possible]
  rw [settle]
  show ((first cs).dropStaleKey).map _ = _
  rw [hkey, Option.map_some, unindentTo_of_le]
  rw [hmargin.indent, hmargin.column]
  decide

/-- The first token is scanned from the margin. -/
theorem stop_margin (h : (first cs).column = 0) : (margin cs).stop =
    (margin (first cs).rest).halt.map (Scanner.shift (first cs).index (first cs).line []) := by
  rw [stop_eq, settle_margin h, Option.bind_some]
  conv_lhs => rw [(atMargin_first h).eq_shift, tokens_first]
  exact halt_shift ..

/-- The same place in a text outside of all collections. -/
def outside (s : Scanner) : Scanner := { s with indent := -1, outer := [] }

theorem skip_outside (s : Scanner) : s.outside.skip = s.skip.map outside := by
  have hline : s.outside.advanceLine = s.advanceLine.outside := by
    unfold advanceLine
    simp only [outside]
    split <;> rfl
  unfold skip
  rw [hline]
  simp only [outside]
  cases hr : s.rest with
  | nil => rfl
  | cons c rest =>
    simp only [apply_ite (Option.map _), Option.map_some, Option.map_none]
    by_cases hflow : s.advanceLine.flow = 0 <;> simp [outside, advance, advanceBy, hflow, hr]

theorem skipToToken_outside (n : Nat) (s : Scanner) :
    skipToToken n s.outside = (skipToToken n s).outside := by
  induction n generalizing s with
  | zero => rfl
  | succ n ih =>
    rw [skipToToken_succ, skipToToken_succ, skip_outside]
    cases s.skip with
    | none => rfl
    | some s' => exact ih s'

/-- The end of a mapping at the margin. -/
theorem finish_of_atMargin (h : s.AtMargin) :
    s.finish.map (fun s => s.tokens.reverse) = some (s.tokens.reverse ++ [.blockEnd]) := by
  obtain ⟨-, hindent, houter, hflow, -, hpossible, -⟩ := h
  simp [finish, unindentTo, unindentFrom, dropKey, emit, hindent, houter, hflow, hpossible]

end Scanner

open Scanner

/-- A text that starts with an entry. -/
def StartsEntry (cs : List Char) : Prop :=
  ∃ w token t, cs = w ++ ':' :: t ∧ IsKey w token ∧ endsWord t = true

theorem StartsEntry.startsWord (h : StartsEntry cs) : StartsWord cs := by
  obtain ⟨w, token, t, rfl, hw, -⟩ := h
  obtain ⟨c, rest, rfl, hc⟩ := hw.start
  exact ⟨c, rest ++ ':' :: t, by simp, hc⟩

theorem StartsWord.first_eq (h : StartsWord cs) : first cs = margin cs := by
  obtain ⟨c, rest, rfl, -, hbreak, hhash, hspace, htab⟩ := h.cases
  rw [first, skipToToken_succ, show (margin (c :: rest)).skip = none by
    simp [skip, margin, hbreak, hhash, hspace, htab]]
  rfl

theorem first_append (hline : EndsLine cs) (hY : StartsWord Y) :
    first (cs ++ Y) = (first cs).extend Y :=
  skipToToken_extend (s := margin cs) hY hline (Nat.lt_succ_self _) (Nat.lt_succ_self _)

/-- A text whose first token starts an entry at the margin, if it has tokens at all. -/
structure Begins (cs : List Char) : Prop where
  column : (first cs).column = 0
  starts : (first cs).rest = [] ∨ StartsEntry (first cs).rest

theorem StartsEntry.begins (h : StartsEntry cs) : Begins cs :=
  ⟨by rw [h.startsWord.first_eq]; rfl, Or.inr (by rw [h.startsWord.first_eq]; exact h)⟩

theorem Begins.append (h : Begins cs) (hline : EndsLine cs) (hY : Y = [] ∨ StartsEntry Y) :
    Begins (cs ++ Y) := by
  rcases hY with rfl | hY
  · rwa [List.append_nil]
  have hfirst := first_append hline hY.startsWord
  refine ⟨by rw [hfirst]; exact h.column, Or.inr ?_⟩
  rw [hfirst, rest_extend]
  rcases h.starts with hnil | ⟨w, token, t, ht, hw, hend⟩
  · rwa [hnil]
  · -- the line of the first key goes on behind the colon
    have hline' : EndsLine (':' :: t) :=
      (hline.suffix (skipToToken_suffix ..)).suffix (show _ <:+ (first cs).rest from ⟨w, ht.symm⟩)
    refine ⟨w, token, t ++ Y, by simp [ht], hw, ?_⟩
    rwa [endsWord_append (hline'.ne_nil_of_cons rfl)]

/-- A part of a mapping at the margin, and its tokens. -/
structure Holds (cs : List Char) (ts : List Token) : Prop where
  line : EndsLine cs
  begins : Begins cs
  stops : ∃ e, (margin cs).stop = some e ∧ e.AtMargin ∧ e.tokens.reverse = ts

/-- A part can be found by scanning it. -/
theorem holds_of_stop (hline : cs.getLast? = some '\n') (hbegins : Begins cs)
    (h : ((margin cs).stop.any fun e => decide (e.AtMargin ∧ e.tokens.reverse = ts)) = true) :
    Holds cs ts := by
  refine ⟨fun c hc => (Option.some.inj (hline.symm.trans hc)).symm, hbegins, ?_⟩
  obtain ⟨e, he, hend⟩ := (Option.any_eq_true _ _).1 h
  exact ⟨e, he, of_decide_eq_true hend⟩

theorem EndsLine.append (h : EndsLine cs) (h' : EndsLine ds) : EndsLine (cs ++ ds) := by
  intro c hc
  rw [List.getLast?_append, Option.mem_def, Option.or_eq_some_iff] at hc
  rcases hc with hc | ⟨-, hc⟩
  · exact h' c hc
  · exact h c hc

theorem EndsLine.append_left (h : EndsLine ds) (hne : ds ≠ []) (cs : List Char) :
    EndsLine (cs ++ ds) := by
  intro c hc
  rw [List.getLast?_append, List.getLast?_eq_some_getLast hne, Option.some_or] at hc
  exact h c (List.getLast?_eq_some_getLast hne ▸ hc)

theorem EndsLine.cons_newline (h : EndsLine cs) : EndsLine ('\n' :: cs) := by
  intro c hc
  cases cs with
  | nil => exact (Option.some.inj hc).symm
  | cons d cs => exact h c (by rwa [List.getLast?_cons_cons] at hc)

/-- The tokens of a key and its colon stand in front of all others. -/
theorem halt_startsEntry (hw : IsKey w token) (ht : endsWord t = true) :
    ∃ s : Scanner, (margin (w ++ ':' :: t)).halt =
      s.stop.map (shift 0 0 [.value, token, .key]) ∧
    (margin (w ++ ':' :: t)).outside.halt = s.stop.map
      (shift 0 0 [.value, token, .key, .blockMappingStart]) := by
  have hinside : (margin (w ++ ':' :: t)).AtEntry := (atMargin_margin _).atEntry
  have houtside : (margin (w ++ ':' :: t)).outside.AtEntry :=
    ⟨hinside.column, hinside.flow, (by decide : (-1 : Int) ≤ 0), hinside.keyAllowed,
      hinside.possible⟩
  refine ⟨{ (margin (w ++ ':' :: t)).behindKey w token t with tokens := [] }, ?_, ?_⟩
  · rw [halt_key hinside hw ht rfl, ← stop_shift]
    rfl
  · rw [halt_key houtside hw ht rfl, ← stop_shift]
    rfl

/-- A part of a mapping without tokens is passed over; any other one starts with a key. -/
theorem Holds.tokens_cases (h : Holds cs ts) :
    ((first cs).rest = [] ∧ ts = []) ∨ StartsEntry (first cs).rest ∧ ∃ us, ts = .key :: us := by
  obtain ⟨e, hstop, -, rfl⟩ := h.stops
  rw [stop_margin h.begins.column] at hstop
  obtain ⟨e, he, rfl⟩ := Option.map_eq_some_iff.1 hstop
  rcases h.begins.starts with hnil | hentry
  · rw [hnil] at he
    obtain rfl := Option.some.inj he
    exact Or.inl ⟨hnil, rfl⟩
  · refine Or.inr ⟨hentry, ?_⟩
    obtain ⟨w, token, t, ht, hw, hend⟩ := hentry
    obtain ⟨s, hs, -⟩ := halt_startsEntry hw hend
    rw [ht, hs] at he
    obtain ⟨e, -, rfl⟩ := Option.map_eq_some_iff.1 he
    exact ⟨token :: .value :: e.tokens.reverse, by simp [shift]⟩

theorem holds_nil : Holds [] [] := by
  have hbegins : Begins [] := ⟨rfl, Or.inl rfl⟩
  refine ⟨by simp [EndsLine], hbegins, first [], ?_, atMargin_first rfl, tokens_first []⟩
  rw [stop_eq, settle_margin hbegins.column]
  rfl

theorem Holds.eq_nil (h : Holds [] ts) : ts = [] := by
  rcases h.tokens_cases with ⟨-, hts⟩ | ⟨⟨w, token, t, ht, -⟩, -⟩
  · exact hts
  · have hnil : (first []).rest = [] := rfl
    rw [hnil] at ht
    simp at ht

theorem Holds.startsEntry (h : Holds cs ts) (hcs : StartsWord cs) : StartsEntry cs := by
  have hstarts := h.begins.starts
  rw [hcs.first_eq] at hstarts
  refine hstarts.resolve_left fun hnil => ?_
  obtain ⟨c, rest, rfl, -⟩ := hcs
  cases hnil

theorem StartsEntry.stop_margin (hcs : StartsEntry cs) : (margin cs).stop = (margin cs).halt := by
  rw [stop_eq, settle_margin hcs.begins.column, Option.bind_some, hcs.startsWord.first_eq]

/-- **The tokens of a mapping are those of its parts.** -/
theorem Holds.append (h : Holds cs ts) (h' : Holds ds us) (hds : ds = [] ∨ StartsEntry ds) :
    Holds (cs ++ ds) (ts ++ us) := by
  rcases hds with rfl | hds
  · rw [h'.eq_nil, List.append_nil, List.append_nil]
    exact h
  obtain ⟨e, hstop, he, rfl⟩ := h.stops
  obtain ⟨e', hstop', he', rfl⟩ := h'.stops
  refine ⟨h.line.append h'.line, h.begins.append h.line (Or.inr hds),
    e'.shift e.index e.line e.tokens, ?_, atMargin_shift.2 he', by simp [shift]⟩
  have hmargin : (e.extend ds).AtMargin :=
    ⟨he.column, he.indent, he.outer, he.flow, he.keyAllowed, he.possible, he.possibleOuter⟩
  have hrest : (e.extend ds).rest = ds := by rw [rest_extend, rest_of_stop hstop, List.nil_append]
  have hhalt : (margin ds).halt = some e' := hds.stop_margin.symm.trans hstop'
  calc (margin (cs ++ ds)).stop
    _ = (e.extend ds).halt := stop_extend hds.startsWord h.line hstop he.isOpen
    _ = ((margin ds).shift e.index e.line e.tokens).halt := by
      conv_lhs => rw [hmargin.eq_shift, hrest]
      rfl
    _ = some (e'.shift e.index e.line e.tokens) := by rw [halt_shift, hhalt, Option.map_some]

theorem settle_outside (h : Begins cs) : (margin cs).outside.settle = some (first cs).outside := by
  have hmargin := atMargin_first h.column
  have hkey : (first cs).outside.dropStaleKey = some (first cs).outside := by
    simp [dropStaleKey, outside, hmargin.possible]
  rw [settle, skipToToken_outside]
  show ((first cs).outside.dropStaleKey).map _ = _
  rw [hkey, Option.map_some, unindentTo_of_le]
  show (-1 : Int) ≤ (first cs).column
  omega

/-- **The tokens of a text that is a mapping at the margin.** -/
theorem Holds.scan_eq (h : Holds cs ts) : scan { rest := cs } =
    some (if ts = [] then [] else .blockMappingStart :: (ts ++ [.blockEnd])) := by
  have hmargin := atMargin_first h.begins.column
  rw [scan_eq_stop, show ({ rest := cs } : Scanner) = (margin cs).outside from rfl, stop_eq,
    settle_outside h.begins, Option.bind_some]
  rcases h.tokens_cases with ⟨hnil, rfl⟩ | ⟨⟨w, token, t, ht, hw, hend⟩, us, rfl⟩
  · -- there is nothing to open or to close
    rw [halt_of_nil (s := (first cs).outside) hnil]
    simp [outside, finish, unindentTo, unindentFrom, dropKey, hmargin.possible, tokens_first]
  · obtain ⟨s, hs, hs'⟩ := halt_startsEntry hw hend
    obtain ⟨e, hstop, he, htokens'⟩ := h.stops
    rw [stop_margin h.begins.column, ht, hs, Option.map_map] at hstop
    obtain ⟨e, hsome, rfl⟩ := Option.map_eq_some_iff.1 hstop
    have hhalt : (first cs).outside.halt = some ((e.shift 0 0
        [.value, token, .key, .blockMappingStart]).shift (first cs).index (first cs).line []) := by
      conv_lhs => rw [hmargin.eq_shift, tokens_first, ht]
      show ((margin (w ++ ':' :: t)).outside.shift _ _ []).halt = _
      rw [halt_shift, hs', hsome, Option.map_some, Option.map_some]
    have he' := atMargin_shift.1 (atMargin_shift.1 he)
    rw [hhalt, Option.bind_some, finish_of_atMargin (atMargin_shift.2 (atMargin_shift.2 he')),
      if_neg (List.cons_ne_nil _ _), ← htokens']
    simp [shift]

/-! ## An entry that holds a pair -/

/-- The tokens of an entry whose value is a pair of plain scalars. -/
def pairTokens (w a b : List Char) : List Token :=
  [.key, .scalar (lineText w) true, .value, .flowSequenceStart, .scalar (lineText a) true,
    .flowEntry, .scalar (lineText b) true, .flowSequenceEnd]

/-- Behind its line an entry may have lines without tokens. -/
theorem stop_of_newline {s : Scanner} (hr : s.rest = '\n' :: cs) (h : Holds cs [])
    (hindent : s.indent = 0) (houter : s.outer = [-1]) (hflow : s.flow = 0)
    (hpossible : s.possible = none) (hpossibleOuter : s.possibleOuter = []) :
    s.stop = some ((first cs).shift (s.index + 1) (s.line + 1) s.tokens) := by
  have hmargin := atMargin_first h.begins.column
  have hnil : (first cs).rest = [] := by
    rcases h.tokens_cases with h | ⟨-, us, hus⟩
    · exact h.1
    · cases hus
  have hskip : s.skip = some ((margin cs).shift (s.index + 1) (s.line + 1) s.tokens) := by
    simp [skip, hr, isBreak, advanceLine, hflow, shift, margin, hindent, houter, hpossible,
      hpossibleOuter]
  have hpass : skipToToken (s.rest.length + 1) s =
      (first cs).shift (s.index + 1) (s.line + 1) s.tokens := by
    rw [skipToToken_succ, hskip, hr, List.length_cons]
    exact skipToToken_shift ..
  rw [stop_eq, settle, hpass]
  generalize hs : (first cs).shift (s.index + 1) (s.line + 1) s.tokens = s'
  have hmargin' : s'.AtMargin := hs ▸ atMargin_shift.2 hmargin
  have hrest : s'.rest = [] := by rw [← hs, rest_shift, hnil]
  have hkey : s'.dropStaleKey = some s' := by simp [dropStaleKey, hmargin'.possible]
  rw [hkey, Option.map_some, unindentTo_of_le (by rw [hmargin'.indent, hmargin'.column]; decide),
    Option.bind_some, halt_of_nil hrest]

/-- **An entry whose value is a pair is a part of a mapping**, with lines behind it that have no
tokens. -/
theorem holds_pair (hw : IsLabel w) (ha : IsItem a) (hb : IsItem b) (hcs : Holds cs []) :
    Holds (w ++ ':' :: (" [".toList ++ (a ++ (", ".toList ++ (b ++ ']' :: '\n' :: cs)))))
      (pairTokens w a b) := by
  generalize ht : " [".toList ++ (a ++ (", ".toList ++ (b ++ ']' :: '\n' :: cs))) = t
  have hend : endsWord t = true := by
    rw [← ht]
    rfl
  have hentry : StartsEntry (w ++ ':' :: t) := ⟨w, _, t, rfl, .plain hw, hend⟩
  refine ⟨?_, hentry.begins, ?_⟩
  · have hsuffix : ∃ u, w ++ ':' :: t = u ++ '\n' :: cs :=
      ⟨w ++ ':' :: (" [".toList ++ (a ++ (", ".toList ++ (b ++ [']'])))), by simp [← ht]⟩
    obtain ⟨u, hu⟩ := hsuffix
    rw [hu]
    exact (hcs.line.cons_newline).append_left (List.cons_ne_nil _ _) u
  · have hkey := halt_key (atMargin_margin _).atEntry (.plain hw) hend rfl
    have hpair := stop_pair
      (s := (margin (w ++ ':' :: t)).behindKey w (.scalar (lineText w) true) t)
      ha hb rfl rfl rfl rfl ht.symm
    have hstop := stop_of_newline (s := ((margin (w ++ ':' :: t)).behindKey w
      (.scalar (lineText w) true) t).behindPair a b ('\n' :: cs)) rfl hcs rfl rfl rfl rfl rfl
    refine ⟨_, (hentry.stop_margin.trans hkey).trans (hpair.trans hstop),
      atMargin_shift.2 (atMargin_first hcs.begins.column), ?_⟩
    simp [shift, tokens_first, behindPair, behindKey, margin, pairTokens]

end Gazetteer.Yaml
