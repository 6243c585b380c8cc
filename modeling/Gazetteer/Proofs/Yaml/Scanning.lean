import Gazetteer.Yaml.Token
import Mathlib.Data.List.Infix
import Mathlib.Logic.Basic

/-!
# Token by token

The scanner takes in at least one character for each token (`Scanner.token_suffix`), so how much
fuel it gets makes no difference as long as it is enough (`Scanner.stopUpTo_eq_of_lt`). What it does
is said by one equation without fuel (`Scanner.stop_eq`): it passes over what separates tokens
(`Scanner.settle`) and goes on with the next token (`Scanner.halt`). The tokens of a text are those
that it has at the end (`Scanner.scan_eq_stop`).
-/

namespace Gazetteer.Yaml.Scanner

variable {s s₁ : Scanner} {f f₁ : Folded} {c : Char} {rest : List Char} {n : Nat}

/-! ## The parts of block scalars -/

/-- Pass over a comment. -/
def skipComment (s : Scanner) : Scanner :=
  match s.rest with
  | '#' :: _ => s.advanceBy (s.rest.takeWhile fun c => !isBreak c).length
  | _ => s

theorem skipComment_cases (s : Scanner) :
    (∃ rest, s.rest = '#' :: rest ∧
      s.skipComment = s.advanceBy (s.rest.takeWhile fun c => !isBreak c).length) ∨
    (∀ rest, s.rest ≠ '#' :: rest) ∧ s.skipComment = s := by
  unfold skipComment
  split
  · rename_i rest hr
    exact Or.inl ⟨rest, hr, rfl⟩
  · rename_i hr
    exact Or.inr ⟨hr, rfl⟩

/-- Pass over the end of a line; nothing else may stand there. -/
def endLine (s : Scanner) : Option Scanner :=
  match s.rest with
  | [] => some s
  | c :: _ => if isBreak c then some s.advanceLine else none

/-- Scan the header of a block scalar up to the next line. -/
def blockHeader (folded : Bool) (s : Scanner) : Option (BlockHeader × Scanner) :=
  let marks := s.rest.takeWhile fun c => c == '+' || c == '-' || c.isDigit
  (marks.foldlM BlockHeader.step ⟨folded, none, none⟩).bind fun h =>
    let s := s.advanceBy marks.length
    let s := s.advanceBy (s.rest.takeWhile isBlank).length
    s.skipComment.endLine.map fun s => (h, s)

/-- Scan the text of a block scalar. -/
def blockText (h : BlockHeader) (s : Scanner) : Option Scanner := do
  let wanted := h.indent.map fun n => if 0 ≤ s.indent then s.indent.toNat + n else n
  let (s, breaks, deepest) ← blockBreaks wanted 0 (s.rest.length + 1) s []
  let indent := wanted.getD (max (max deepest (s.indent + 1).toNat) 1)
  let (s, text, lead, breaks) ← blockLines h indent (s.rest.length + 1) s [] [] breaks false
  let tail :=
    if h.keep = some false then [] else if h.keep = some true then breaks ++ lead else lead
  return s.emit (.scalar (String.ofList (tail ++ text).reverse) false)

theorem block_eq (s : Scanner) (folded : Bool) :
    s.block folded = s.dropKey.bind fun s =>
      (blockHeader folded ({ s with keyAllowed := true } : Scanner).advance).bind
        fun (h, s) => blockText h s := by
  unfold block
  refine congrArg (Option.bind s.dropKey) (funext fun s => ?_)
  generalize ({ s with keyAllowed := true } : Scanner).advance = s
  simp only [blockHeader, Option.bind_assoc]
  refine congrArg (Option.bind _) (funext fun h => ?_)
  generalize s.advanceBy _ = s
  generalize s.advanceBy _ = s
  rcases skipComment_cases s with ⟨rest, hr, hc⟩ | ⟨hr, hc⟩
  · simp only [hr, hc, endLine]
    generalize s.advanceBy _ = s
    cases s.rest with
    | nil => rfl
    | cons c rest => cases hb : isBreak c <;> simp [hb, blockText]
  · rw [hc]
    unfold endLine
    cases hs : s.rest with
    | nil => simp only [hs]; rfl
    | cons c rest =>
      have hne : c ≠ '#' := fun h => hr rest (h ▸ hs)
      simp only [hs, List.cons.injEq, hne, false_and, imp_self, implies_true]
      cases isBreak c <;> rfl

/-- Pass over the indentation of a line of a block scalar. -/
def passIndent (indent : Option Nat) (s : Scanner) : Scanner :=
  let spaces := (s.rest.takeWhile (· == ' ')).length
  s.advanceBy (match indent with
    | some i => min spaces (i - s.column)
    | none => spaces)

theorem blockBreaks_succ (indent : Option Nat) (deepest n : Nat) (s : Scanner)
    (breaks : List Char) :
    blockBreaks indent deepest (n + 1) s breaks =
      match (s.passIndent indent).rest with
      | c :: _ =>
        if indent.all (fun i => decide ((s.passIndent indent).column < i)) && c == '\t' then none
        else if isBreak c then
          blockBreaks indent (max deepest (s.passIndent indent).column) n
            (s.passIndent indent).advanceLine (breakChar c :: breaks)
        else some (s.passIndent indent, breaks, max deepest (s.passIndent indent).column)
      | [] => some (s.passIndent indent, breaks, max deepest (s.passIndent indent).column) := by
  cases indent <;> rfl

/-- Pass over a line of a block scalar. -/
def passLine (s : Scanner) : Scanner × List Char :=
  let s := s.advanceBy (s.rest.takeWhile fun c => !isBreak c).length
  match s.rest with
  | c :: _ => (s.advanceLine, [breakChar c])
  | [] => (s, [])

/-- The text of a block scalar with the text of one more line. -/
def joinLine (h : BlockHeader) (text lead breaks : List Char) (leadBlank blank : Bool)
    (line : List Char) : List Char :=
  line.reverse ++ (breaks ++ if h.folded && lead == ['\n'] && !leadBlank && !blank then
      if breaks.isEmpty then ' ' :: text else text
    else lead ++ text)

theorem blockLines_succ (h : BlockHeader) (indent n : Nat) (s : Scanner)
    (text lead breaks : List Char) (leadBlank : Bool) :
    blockLines h indent (n + 1) s text lead breaks leadBlank =
      match s.rest with
      | [] => some (s, text, lead, breaks)
      | c :: _ =>
        if s.column ≠ indent then some (s, text, lead, breaks)
        else (blockBreaks (some indent) 0 (s.passLine.1.rest.length + 1) s.passLine.1 []).bind
          fun (s', breaks', _) => blockLines h indent n s'
            (joinLine h text lead breaks leadBlank (isBlank c)
              (s.rest.takeWhile fun c => !isBreak c)) s.passLine.2 breaks' (isBlank c) := by
  rw [blockLines]
  cases hr : s.rest with
  | nil => rfl
  | cons c rest =>
    simp only
    refine if_congr Iff.rfl rfl ?_
    unfold passLine joinLine
    simp only [hr]
    cases hline : (s.advanceBy ((c :: rest).takeWhile fun c => !isBreak c).length).rest with
    | nil =>
      simp only
      cases blockBreaks (some indent) 0 _ _ [] <;> rfl
    | cons d rest' =>
      simp only
      cases blockBreaks (some indent) 0 _ _ [] <;> rfl

/-! ## Marks of block collections -/

/-- Open a block collection here if there is none. -/
def indentHere (s : Scanner) (t : Token) : Option Scanner :=
  if s.flow ≠ 0 then some s
  else if s.keyAllowed then some (s.indentTo s.column s.tokens.length t)
  else none

theorem blockEntry_eq (s : Scanner) :
    s.blockEntry = (s.indentHere .blockSequenceStart).bind fun s => s.dropKey.bind fun s =>
      some (({ s with keyAllowed := true } : Scanner).advance.emit .blockEntry) := by
  unfold blockEntry indentHere
  split
  · rfl
  · split <;> rfl

theorem explicitKey_eq (s : Scanner) :
    s.explicitKey = (s.indentHere .blockMappingStart).bind fun s => s.dropKey.bind fun s =>
      some (({ s with keyAllowed := s.flow == 0 } : Scanner).advance.emit .key) := by
  unfold explicitKey indentHere
  split
  · rfl
  · split <;> rfl

theorem value_of_none (h : s.possible = none) :
    s.value = (s.indentHere .blockMappingStart).bind fun s =>
      some (({ s with keyAllowed := s.flow == 0 } : Scanner).advance.emit .value) := by
  unfold value indentHere
  rw [h]
  simp only
  split
  · rfl
  · split <;> rfl

theorem value_of_some {k : PossibleKey} (h : s.possible = some k) :
    s.value = some (({ (s.insert k.position .key).indentTo k.column k.position
        .blockMappingStart with
      possible := none, keyAllowed := false } : Scanner).advance.emit .value) := by
  unfold value
  rw [h]

/-! ## How far a step gets -/

section Fields

variable (s : Scanner)

@[simp] theorem rest_advance : s.advance.rest = s.rest.drop 1 := rfl
@[simp] theorem rest_advanceBy (n : Nat) : (s.advanceBy n).rest = s.rest.drop n := rfl
@[simp] theorem rest_emit (t : Token) : (s.emit t).rest = s.rest := rfl
@[simp] theorem rest_insert (n : Nat) (t : Token) : (s.insert n t).rest = s.rest := rfl

@[simp] theorem rest_indentTo (column n : Nat) (t : Token) :
    (s.indentTo column n t).rest = s.rest := by
  unfold indentTo
  split <;> rfl

@[simp] theorem rest_unindentFrom (column : Int) (outer : List Int) :
    (s.unindentFrom column outer).rest = s.rest := by
  induction outer generalizing s with
  | nil => rfl
  | cons i outer ih =>
    unfold unindentFrom
    split
    · exact ih _
    · rfl

@[simp] theorem rest_unindentTo (column : Int) : (s.unindentTo column).rest = s.rest := by
  unfold unindentTo
  split
  · exact rest_unindentFrom ..
  · rfl

end Fields

/-- No collection is deeper than the column. -/
theorem unindentTo_of_le {column : Int} (h : s.indent ≤ column) : s.unindentTo column = s := by
  unfold unindentTo
  split
  · cases ho : s.outer with
    | nil => rfl
    | cons i outer => exact if_neg (Int.not_lt.2 h)
  · rfl

theorem column_unindentFrom (s : Scanner) (column : Int) (outer : List Int) :
    (s.unindentFrom column outer).column = s.column ∧
      (s.unindentFrom column outer).flow = s.flow := by
  induction outer generalizing s with
  | nil => exact ⟨rfl, rfl⟩
  | cons i outer ih =>
    unfold unindentFrom
    split
    · exact ih _
    · exact ⟨rfl, rfl⟩

theorem column_unindentTo (s : Scanner) (column : Int) :
    (s.unindentTo column).column = s.column ∧ (s.unindentTo column).flow = s.flow := by
  unfold unindentTo
  split
  · exact column_unindentFrom ..
  · exact ⟨rfl, rfl⟩

theorem of_dropKey (h : s.dropKey = some s₁) : s₁ = { s with possible := none } := by
  unfold dropKey at h
  split at h
  · split at h
    · cases h
    · exact (Option.some.inj h).symm
  · rename_i hk
    rw [← Option.some.inj h, ← hk]

theorem of_dropStaleKey (h : s.dropStaleKey = some s₁) :
    s₁ = s ∨ s₁ = { s with possible := none } := by
  unfold dropStaleKey at h
  split at h
  · split at h
    · exact Or.inr (of_dropKey h)
    · exact Or.inl (Option.some.inj h).symm
  · exact Or.inl (Option.some.inj h).symm

theorem rest_of_dropKey (h : s.dropKey = some s₁) : s₁.rest = s.rest := by
  rw [of_dropKey h]

theorem rest_of_saveKey (h : s.saveKey = some s₁) : s₁.rest = s.rest := by
  unfold saveKey at h
  split at h
  · obtain ⟨s', hs', h⟩ := Option.bind_eq_some_iff.1 h
    exact (Option.some.inj h ▸ rfl : s₁.rest = s'.rest).trans (rest_of_dropKey hs')
  · exact Option.some.inj h ▸ rfl

theorem rest_of_dropStaleKey (h : s.dropStaleKey = some s₁) : s₁.rest = s.rest := by
  rcases of_dropStaleKey h with rfl | rfl <;> rfl

theorem advanceLine_suffix (s : Scanner) : s.advanceLine.rest <:+ s.rest.drop 1 := by
  unfold advanceLine
  split
  · rename_i rest hr
    rw [hr]
    exact List.suffix_cons ..
  · exact List.suffix_refl _

/-- At least one character is taken in. -/
theorem advanceLine_suffix' (s : Scanner) : s.advanceLine.rest <:+ s.rest :=
  (advanceLine_suffix s).trans (List.drop_suffix ..)

theorem plainUpTo_suffix (h : plainUpTo n s f = some (s₁, f₁)) : s₁.rest <:+ s.rest := by
  induction n generalizing s f with
  | zero =>
    obtain ⟨rfl, -⟩ := Prod.mk.inj (Option.some.inj h)
    exact List.suffix_refl _
  | succ n ih =>
    unfold plainUpTo at h
    split at h
    · obtain ⟨rfl, -⟩ := Prod.mk.inj (Option.some.inj h)
      exact List.suffix_refl _
    · have hadvance : s.advance.rest <:+ s.rest := List.drop_suffix ..
      simp only at h
      split_ifs at h
      · exact (ih h).trans (advanceLine_suffix' s)
      · exact (ih h).trans hadvance
      · obtain ⟨rfl, -⟩ := Prod.mk.inj (Option.some.inj h)
        exact List.suffix_refl _
      · obtain ⟨rfl, -⟩ := Prod.mk.inj (Option.some.inj h)
        exact List.suffix_refl _
      · exact (ih h).trans hadvance

theorem quotedUpTo_suffix {quote : Char} (h : quotedUpTo quote n s f = some (s₁, f₁)) :
    s₁.rest <:+ s.rest := by
  induction n generalizing s f with
  | zero => cases h
  | succ n ih =>
    have hadvance : s.advance.rest <:+ s.rest := List.drop_suffix ..
    have hadvanceBy : ∀ n, (s.advanceBy n).rest <:+ s.rest := fun n => List.drop_suffix ..
    unfold quotedUpTo at h
    split at h
    · cases h
    · split at h
      · cases h
      · split_ifs at h
        · exact (ih h).trans (advanceLine_suffix' s)
        · exact (ih h).trans hadvance
        · exact (ih h).trans (hadvanceBy 2)
        · obtain ⟨rfl, -⟩ := Prod.mk.inj (Option.some.inj h)
          exact hadvance
        · exact (ih h).trans ((advanceLine_suffix' _).trans hadvance)
        · split at h
          · exact (ih h).trans (hadvanceBy _)
          · cases h
        · exact (ih h).trans hadvance

theorem blockBreaks_suffix {indent : Option Nat} {deepest deepest' : Nat}
    {breaks breaks' : List Char}
    (h : blockBreaks indent deepest n s breaks = some (s₁, breaks', deepest')) :
    s₁.rest <:+ s.rest := by
  induction n generalizing s deepest breaks with
  | zero => cases h
  | succ n ih =>
    have hadvance : ∀ k, (s.advanceBy k).rest <:+ s.rest := fun k => List.drop_suffix ..
    unfold blockBreaks at h
    simp only at h
    split at h
    · split_ifs at h
      · exact (ih h).trans ((advanceLine_suffix' _).trans (hadvance _))
      · obtain ⟨rfl, -⟩ := Prod.mk.inj (Option.some.inj h)
        exact hadvance _
    · obtain ⟨rfl, -⟩ := Prod.mk.inj (Option.some.inj h)
      exact hadvance _

theorem blockLines_suffix {h : BlockHeader} {indent : Nat} {text lead breaks : List Char}
    {blank : Bool} {r : List Char × List Char × List Char}
    (hs : blockLines h indent n s text lead breaks blank = some (s₁, r)) : s₁.rest <:+ s.rest := by
  induction n generalizing s text lead breaks blank with
  | zero => cases hs
  | succ n ih =>
    have hadvance : ∀ k, (s.advanceBy k).rest <:+ s.rest := fun k => List.drop_suffix ..
    unfold blockLines at hs
    simp only at hs
    split at hs
    · obtain ⟨rfl, -⟩ := Prod.mk.inj (Option.some.inj hs)
      exact List.suffix_refl _
    · split at hs
      · obtain ⟨rfl, -⟩ := Prod.mk.inj (Option.some.inj hs)
        exact List.suffix_refl _
      · split at hs
        · cases hs
        · rename_i hbreaks
          refine (ih hs).trans ((blockBreaks_suffix hbreaks).trans ?_)
          split
          · exact (advanceLine_suffix' _).trans (hadvance _)
          · exact hadvance _

theorem passIndent_suffix (indent : Option Nat) (s : Scanner) :
    (s.passIndent indent).rest <:+ s.rest :=
  List.drop_suffix ..

theorem passLine_suffix (s : Scanner) : s.passLine.1.rest <:+ s.rest := by
  unfold passLine
  simp only
  split
  · exact (advanceLine_suffix' _).trans (List.drop_suffix ..)
  · exact List.drop_suffix ..

theorem endLine_suffix (h : s.endLine = some s₁) : s₁.rest <:+ s.rest := by
  unfold endLine at h
  split at h
  · exact Option.some.inj h ▸ List.suffix_refl _
  · split at h
    · exact Option.some.inj h ▸ advanceLine_suffix' s
    · cases h

theorem skipComment_suffix (s : Scanner) : s.skipComment.rest <:+ s.rest := by
  rcases skipComment_cases s with ⟨_, -, h⟩ | ⟨-, h⟩
  · rw [h]
    exact List.drop_suffix ..
  · rw [h]

theorem blockHeader_suffix {folded : Bool} {h : BlockHeader}
    (hs : s.blockHeader folded = some (h, s₁)) : s₁.rest <:+ s.rest := by
  obtain ⟨h', -, hs⟩ := Option.bind_eq_some_iff.1 hs
  obtain ⟨s', hs', hs⟩ := Option.map_eq_some_iff.1 hs
  obtain ⟨-, rfl⟩ := Prod.mk.inj hs
  exact (endLine_suffix hs').trans ((skipComment_suffix _).trans
    ((List.drop_suffix ..).trans (List.drop_suffix ..)))

theorem blockText_suffix {h : BlockHeader} (hs : s.blockText h = some s₁) : s₁.rest <:+ s.rest := by
  obtain ⟨⟨s', breaks, deepest⟩, hbreaks, hs⟩ := Option.bind_eq_some_iff.1 hs
  obtain ⟨⟨s'', text, lead, breaks'⟩, hlines, hs⟩ := Option.bind_eq_some_iff.1 hs
  obtain rfl := Option.some.inj hs
  exact (blockLines_suffix hlines).trans (blockBreaks_suffix hbreaks)

/-- Pass over one blank, one comment or one line break. -/
def skip (s : Scanner) : Option Scanner :=
  match s.rest with
  | [] => none
  | c :: _ =>
    if c = ' ' ∨ (c = '\t' ∧ (s.flow ≠ 0 ∨ s.keyAllowed = false)) then some s.advance
    else if c = '#' then some (s.advanceBy (s.rest.takeWhile fun c => !isBreak c).length)
    else if isBreak c then
      some (if s.advanceLine.flow = 0 then { s.advanceLine with keyAllowed := true }
        else s.advanceLine)
    else none

theorem skipToToken_succ (n : Nat) (s : Scanner) :
    skipToToken (n + 1) s = (s.skip.map (skipToToken n)).getD s := by
  rw [skipToToken, skip]
  cases hr : s.rest with
  | nil => rfl
  | cons c rest =>
    simp only [apply_ite (Option.map _), apply_ite (Option.getD · s), Option.map_some,
      Option.map_none, Option.getD_some, Option.getD_none]

theorem skip_suffix (h : s.skip = some s₁) : s₁.rest <:+ s.rest.drop 1 := by
  unfold skip at h
  cases hr : s.rest with
  | nil => simp [hr] at h
  | cons c rest =>
    simp only [hr] at h
    rcases ite_eq_iff.1 h with ⟨-, h⟩ | ⟨-, h⟩
    · obtain rfl := Option.some.inj h
      simp [hr]
    rcases ite_eq_iff.1 h with ⟨hc, h⟩ | ⟨-, h⟩
    · obtain rfl := Option.some.inj h
      subst hc
      rw [rest_advanceBy, List.takeWhile_cons_of_pos rfl, List.length_cons, hr,
        List.drop_succ_cons]
      exact List.drop_suffix ..
    rcases ite_eq_iff.1 h with ⟨-, h⟩ | ⟨-, h⟩
    · obtain rfl := Option.some.inj h
      have hrest : ∀ s' : Scanner, (if s'.flow = 0 then { s' with keyAllowed := true }
          else s' : Scanner).rest = s'.rest := fun s' => by split <;> rfl
      rw [hrest, ← hr]
      exact advanceLine_suffix s
    · cases h

theorem length_skip_lt (h : s.skip = some s₁) : s₁.rest.length < s.rest.length := by
  have hle := (skip_suffix h).length_le
  have hne : s.rest ≠ [] := by
    intro hnil
    simp [skip, hnil] at h
  have hpos := List.length_pos_iff.2 hne
  rw [List.length_drop] at hle
  omega

theorem skipToToken_suffix (n : Nat) (s : Scanner) : (skipToToken n s).rest <:+ s.rest := by
  induction n generalizing s with
  | zero => exact List.suffix_refl _
  | succ n ih =>
    rw [skipToToken_succ]
    cases hs : s.skip with
    | none => exact List.suffix_refl _
    | some s' => exact (ih s').trans ((skip_suffix hs).trans (List.drop_suffix ..))

/-- With enough fuel the scanner passes over all there is to pass over. -/
theorem skip_skipToToken (h : s.rest.length < n) : (skipToToken n s).skip = none := by
  induction n generalizing s with
  | zero => omega
  | succ n ih =>
    rw [skipToToken_succ]
    cases hs : s.skip with
    | none => exact hs
    | some s' =>
      have hlt := length_skip_lt hs
      exact ih (by omega)

/-- No token starts with a line break. -/
theorem isBreak_of_skip (h : s.skip = none) (hr : s.rest = c :: rest) : isBreak c = false := by
  unfold skip at h
  simp only [hr] at h
  rcases ite_eq_iff.1 h with ⟨-, h⟩ | ⟨-, h⟩
  · cases h
  rcases ite_eq_iff.1 h with ⟨-, h⟩ | ⟨-, h⟩
  · cases h
  rcases ite_eq_iff.1 h with ⟨-, h⟩ | ⟨hbreak, -⟩
  · cases h
  · exact Bool.eq_false_iff.2 hbreak

/-! ## Tokens -/

section Tokens

variable (hr : s.rest = c :: rest)
include hr

theorem plain_suffix (hflow : isFlowMark c = false) (hblank : isBlank c = false)
    (hbreak : isBreak c = false) (hcolon : ¬(c = ':' ∧ endsWord rest = true))
    (h : s.plain = some s₁) : s₁.rest <:+ rest := by
  obtain ⟨s', hs', h⟩ := Option.bind_eq_some_iff.1 h
  obtain ⟨⟨s'', f⟩, hscalar, h⟩ := Option.bind_eq_some_iff.1 h
  obtain rfl := Option.some.inj h
  have hr' : s'.rest = c :: rest := (rest_of_saveKey hs').trans hr
  -- the first character belongs to the scalar
  unfold plainUpTo at hscalar
  simp only [hr', hbreak, hblank, hflow] at hscalar
  simp only [Bool.false_eq_true, if_false, Option.isSome_none, List.isEmpty_nil, Bool.not_true,
    Bool.or_self, Bool.false_and, hcolon, and_false, or_self] at hscalar
  split at hscalar
  · cases hscalar
  · exact plainUpTo_suffix hscalar

theorem quoted_suffix {quote : Char} (h : s.quoted quote = some s₁) : s₁.rest <:+ rest := by
  obtain ⟨s', hs', h⟩ := Option.bind_eq_some_iff.1 h
  obtain ⟨⟨s'', f⟩, hscalar, h⟩ := Option.bind_eq_some_iff.1 h
  obtain rfl := Option.some.inj h
  have hsuffix := quotedUpTo_suffix hscalar
  rwa [rest_advance, show ({ s' with keyAllowed := false } : Scanner).rest = c :: rest from
    (rest_of_saveKey hs').trans hr] at hsuffix

theorem block_suffix {folded : Bool} (h : s.block folded = some s₁) : s₁.rest <:+ rest := by
  rw [block_eq] at h
  obtain ⟨s', hs', h⟩ := Option.bind_eq_some_iff.1 h
  obtain ⟨⟨header, s''⟩, hheader, h⟩ := Option.bind_eq_some_iff.1 h
  have hsuffix := (blockText_suffix h).trans (blockHeader_suffix hheader)
  rwa [rest_advance, show ({ s' with keyAllowed := true } : Scanner).rest = c :: rest from
    (rest_of_dropKey hs').trans hr] at hsuffix

theorem openFlow_suffix {t : Token} (h : s.openFlow t = some s₁) : s₁.rest <:+ rest := by
  obtain ⟨s', hs', h⟩ := Option.bind_eq_some_iff.1 h
  obtain rfl := Option.some.inj h
  show s'.rest.drop 1 <:+ rest
  rw [rest_of_saveKey hs', hr]
  exact List.suffix_refl _

theorem closeFlow_suffix {t : Token} (h : s.closeFlow t = some s₁) : s₁.rest <:+ rest := by
  obtain ⟨s', hs', h⟩ := Option.bind_eq_some_iff.1 h
  obtain rfl := Option.some.inj h
  have hrest : s'.rest = c :: rest := (rest_of_dropKey hs').trans hr
  cases hk : s'.possibleOuter <;> simp [hk, hrest]

theorem flowEntry_suffix (h : s.flowEntry = some s₁) : s₁.rest <:+ rest := by
  obtain ⟨s', hs', h⟩ := Option.bind_eq_some_iff.1 h
  obtain rfl := Option.some.inj h
  show s'.rest.drop 1 <:+ rest
  rw [rest_of_dropKey hs', hr]
  exact List.suffix_refl _

/-- Marks in front of the entries of a block collection. -/
theorem rest_of_indentHere {t : Token} (h : s.indentHere t = some s₁) : s₁.rest = c :: rest := by
  unfold indentHere at h
  split_ifs at h
  · exact Option.some.inj h ▸ hr
  · rw [← Option.some.inj h, rest_indentTo, hr]

/-- A mark that may open a block collection and ends a possible key. -/
theorem exists_of_indentHere_bind {t : Token} {g : Scanner → Option Scanner}
    (h : ((s.indentHere t).bind fun s => s.dropKey.bind g) = some s₁) :
    ∃ s', s'.rest = c :: rest ∧ g s' = some s₁ := by
  obtain ⟨s', hs', h⟩ := Option.bind_eq_some_iff.1 h
  obtain ⟨s'', hs'', h⟩ := Option.bind_eq_some_iff.1 h
  exact ⟨s'', (rest_of_dropKey hs'').trans (rest_of_indentHere hr hs'), h⟩

theorem blockEntry_suffix (h : s.blockEntry = some s₁) : s₁.rest <:+ rest := by
  rw [blockEntry_eq] at h
  obtain ⟨s', hrest, h⟩ := exists_of_indentHere_bind hr h
  obtain rfl := Option.some.inj h
  show s'.rest.drop 1 <:+ rest
  rw [hrest]
  exact List.suffix_refl _

theorem explicitKey_suffix (h : s.explicitKey = some s₁) : s₁.rest <:+ rest := by
  rw [explicitKey_eq] at h
  obtain ⟨s', hrest, h⟩ := exists_of_indentHere_bind hr h
  obtain rfl := Option.some.inj h
  show s'.rest.drop 1 <:+ rest
  rw [hrest]
  exact List.suffix_refl _

theorem value_suffix (h : s.value = some s₁) : s₁.rest <:+ rest := by
  cases hk : s.possible with
  | some k =>
    rw [value_of_some hk] at h
    obtain rfl := Option.some.inj h
    simp [hr]
  | none =>
    rw [value_of_none hk] at h
    obtain ⟨s', hs', h⟩ := Option.bind_eq_some_iff.1 h
    obtain rfl := Option.some.inj h
    show s'.rest.drop 1 <:+ rest
    rw [rest_of_indentHere hr hs']
    exact List.suffix_refl _

theorem name_suffix {token : String → Token} (h : s.name token = some s₁) : s₁.rest <:+ rest := by
  obtain ⟨s', hs', h⟩ := Option.bind_eq_some_iff.1 h
  simp only at h
  split at h
  · cases h
  · obtain rfl := Option.some.inj h
    show (s'.rest.drop 1).drop _ <:+ rest
    rw [rest_of_saveKey hs', hr]
    exact List.drop_suffix ..

theorem tag_suffix (hc : c = '!') (h : s.tag = some s₁) : s₁.rest <:+ rest := by
  obtain ⟨s', hs', h⟩ := Option.bind_eq_some_iff.1 h
  obtain rfl := Option.some.inj h
  have hrest : s'.rest = c :: rest := (rest_of_saveKey hs').trans hr
  subst hc
  have hfirst : (!isBlank '!' && !isBreak '!' && !(s'.flow != 0 && isFlowMark '!')) = true := by
    rw [show isFlowMark '!' = false from rfl, Bool.and_false]
    rfl
  simp only [rest_emit, rest_advanceBy, hrest, List.takeWhile_cons, hfirst, if_true,
    List.length_cons, List.drop_succ_cons]
  exact List.drop_suffix ..

theorem documentMark_suffix {t : Token} (h : s.documentMark t = some s₁) : s₁.rest <:+ rest := by
  obtain ⟨s', hs', h⟩ := Option.bind_eq_some_iff.1 h
  obtain rfl := Option.some.inj h
  show s'.rest.drop 3 <:+ rest
  rw [rest_of_dropKey hs', rest_unindentTo, hr]
  exact List.drop_suffix 2 rest

theorem directive_suffix (hc : c = '%') (h : s.directive = some s₁) : s₁.rest <:+ rest := by
  obtain ⟨s', hs', h⟩ := Option.bind_eq_some_iff.1 h
  obtain rfl := Option.some.inj h
  have hrest : s'.rest = c :: rest := by rw [rest_of_dropKey hs', rest_unindentTo, hr]
  subst hc
  have hfirst : (!isBreak '%') = true := rfl
  simp only [rest_emit, rest_advanceBy, hrest, List.takeWhile_cons, hfirst, if_true,
    List.length_cons, List.drop_succ_cons]
  exact List.drop_suffix ..

omit hr in
/-- With these characters a plain scalar starts. -/
theorem start_of_plain (hcolon : ¬(c = ':' ∧ (s.flow ≠ 0 ∨ endsWord rest = true)))
    (h : (!isIndicator c || (c == '-' && !rest.head?.any isBlank) ||
      (s.flow == 0 && (c == '?' || c == ':') && !endsWord rest)) = true) :
    isFlowMark c = false ∧ isBlank c = false ∧ isBreak c = false ∧
      ¬(c = ':' ∧ endsWord rest = true) := by
  have hvalue : ¬(c = ':' ∧ endsWord rest = true) := fun h => hcolon ⟨h.1, Or.inr h.2⟩
  rcases Bool.or_eq_true_iff.1 h with h | h
  · rcases Bool.or_eq_true_iff.1 h with h | h
    · rw [Bool.not_eq_true', isIndicator] at h
      simp only [Bool.or_eq_false_iff] at h
      obtain ⟨⟨⟨hflow, -⟩, hblank⟩, hbreak⟩ := h
      simp_all
    · obtain rfl := beq_iff_eq.1 (Bool.and_eq_true_iff.1 h).1
      exact ⟨rfl, rfl, rfl, hvalue⟩
  · have hmark := (Bool.and_eq_true_iff.1 (Bool.and_eq_true_iff.1 h).1).2
    rcases Bool.or_eq_true_iff.1 hmark with hmark | hmark
    · obtain rfl := beq_iff_eq.1 hmark
      exact ⟨rfl, rfl, rfl, hvalue⟩
    · obtain rfl := beq_iff_eq.1 hmark
      exact ⟨rfl, rfl, rfl, hvalue⟩

/-- **Each token takes in at least one character.** -/
theorem token_suffix (h : s.token c rest = some s₁) : s₁.rest <:+ rest := by
  unfold token at h
  rcases ite_eq_iff.1 h with ⟨hc, h⟩ | ⟨-, h⟩
  · exact directive_suffix hr hc.2 h
  rcases ite_eq_iff.1 h with ⟨-, h⟩ | ⟨-, h⟩
  · exact documentMark_suffix hr h
  rcases ite_eq_iff.1 h with ⟨-, h⟩ | ⟨-, h⟩
  · exact openFlow_suffix hr h
  rcases ite_eq_iff.1 h with ⟨-, h⟩ | ⟨-, h⟩
  · exact openFlow_suffix hr h
  rcases ite_eq_iff.1 h with ⟨-, h⟩ | ⟨-, h⟩
  · exact closeFlow_suffix hr h
  rcases ite_eq_iff.1 h with ⟨-, h⟩ | ⟨-, h⟩
  · exact closeFlow_suffix hr h
  rcases ite_eq_iff.1 h with ⟨-, h⟩ | ⟨-, h⟩
  · exact flowEntry_suffix hr h
  rcases ite_eq_iff.1 h with ⟨-, h⟩ | ⟨-, h⟩
  · exact blockEntry_suffix hr h
  rcases ite_eq_iff.1 h with ⟨-, h⟩ | ⟨-, h⟩
  · exact explicitKey_suffix hr h
  rcases ite_eq_iff.1 h with ⟨-, h⟩ | ⟨hcolon, h⟩
  · exact value_suffix hr h
  rcases ite_eq_iff.1 h with ⟨-, h⟩ | ⟨-, h⟩
  · exact name_suffix hr h
  rcases ite_eq_iff.1 h with ⟨-, h⟩ | ⟨-, h⟩
  · exact name_suffix hr h
  rcases ite_eq_iff.1 h with ⟨hc, h⟩ | ⟨-, h⟩
  · exact tag_suffix hr hc h
  rcases ite_eq_iff.1 h with ⟨-, h⟩ | ⟨-, h⟩
  · exact block_suffix hr h
  rcases ite_eq_iff.1 h with ⟨-, h⟩ | ⟨-, h⟩
  · exact block_suffix hr h
  rcases ite_eq_iff.1 h with ⟨-, h⟩ | ⟨-, h⟩
  · exact quoted_suffix hr h
  rcases ite_eq_iff.1 h with ⟨hplain, h⟩ | ⟨-, h⟩
  · obtain ⟨hflow, hblank, hbreak, hvalue⟩ := start_of_plain hcolon hplain
    exact plain_suffix hr hflow hblank hbreak hvalue h
  · cases h

end Tokens

/-! ## The scanner without fuel -/

/-- Pass over what separates tokens, and close the block collections that end here. -/
def settle (s : Scanner) : Option Scanner :=
  ((skipToToken (s.rest.length + 1) s).dropStaleKey).map fun s => s.unindentTo s.column

theorem settle_suffix (h : s.settle = some s₁) : s₁.rest <:+ s.rest := by
  obtain ⟨s', hs', rfl⟩ := Option.map_eq_some_iff.1 h
  rw [rest_unindentTo, rest_of_dropStaleKey hs']
  exact skipToToken_suffix ..

theorem isBreak_of_settle (h : s.settle = some s₁) (hr : s₁.rest = c :: rest) :
    isBreak c = false := by
  obtain ⟨s', hs', rfl⟩ := Option.map_eq_some_iff.1 h
  rw [rest_unindentTo, rest_of_dropStaleKey hs'] at hr
  exact isBreak_of_skip (skip_skipToToken (Nat.lt_succ_self _)) hr

/-- Scan the rest of a text. -/
def scan (s : Scanner) : Option (List Token) := run (s.rest.length + 1) s

theorem run_succ (n : Nat) (s : Scanner) :
    run (n + 1) s = s.settle.bind fun s =>
      match s.rest with
      | [] => s.finish.map fun s => s.tokens.reverse
      | c :: rest => (s.token c rest).bind (run n) := by
  unfold settle
  rw [run]
  cases (skipToToken (s.rest.length + 1) s).dropStaleKey <;> rfl

/-- The text is shorter behind the next token. -/
theorem length_token_lt {s₂ : Scanner} (hs : s.settle = some s₁) (hr : s₁.rest = c :: rest)
    (ht : s₁.token c rest = some s₂) : s₂.rest.length < s.rest.length := by
  have hle := (settle_suffix hs).length_le
  have hlt := (token_suffix hr ht).length_le
  rw [hr, List.length_cons] at hle
  omega

/-- What holds of a state if it holds behind the next token holds of every state. -/
theorem tokenInduction {P : Scanner → Prop}
    (h : ∀ s, (∀ {s' c rest s''}, s.settle = some s' → s'.rest = c :: rest →
      s'.token c rest = some s'' → P s'') → P s) (s : Scanner) : P s := by
  induction hn : s.rest.length using Nat.strong_induction_on generalizing s with
  | _ n ih =>
    exact h s fun hs hr ht => ih _ (hn ▸ length_token_lt hs hr ht) _ rfl

/-! ## The end of a text -/

/-- The state in which the scanner gets to the end of a text; the fuel bounds its length. -/
def stopUpTo : Nat → Scanner → Option Scanner
  | 0, _ => none
  | fuel + 1, s => s.settle.bind fun s =>
    match s.rest with
    | [] => some s
    | c :: rest => (s.token c rest).bind (stopUpTo fuel)

/-- The state in which the scanner gets to the end of a text. -/
def stop (s : Scanner) : Option Scanner := stopUpTo (s.rest.length + 1) s

/-- The state in which the scanner gets to the end of a text from the next token on. -/
def halt (s : Scanner) : Option Scanner :=
  match s.rest with
  | [] => some s
  | c :: rest => (s.token c rest).bind stop

theorem halt_of_nil (hr : s.rest = []) : s.halt = some s := by
  unfold halt
  rw [hr]

theorem halt_of_cons (hr : s.rest = c :: rest) : s.halt = (s.token c rest).bind stop := by
  unfold halt
  rw [hr]

/-- Enough fuel is enough. -/
theorem stopUpTo_eq_of_lt {n m : Nat} (hn : s.rest.length < n) (hm : s.rest.length < m) :
    stopUpTo n s = stopUpTo m s := by
  induction n generalizing s m with
  | zero => omega
  | succ n ih =>
    obtain ⟨m, rfl⟩ : ∃ k, m = k + 1 := ⟨m - 1, by omega⟩
    rw [stopUpTo, stopUpTo]
    refine Option.bind_congr fun s' hs' => ?_
    cases hr : s'.rest with
    | nil => rfl
    | cons c rest =>
      refine Option.bind_congr fun s'' hs'' => ?_
      have hlt := length_token_lt hs' hr hs''
      exact ih (by omega) (by omega)

/-- **The scanner, token by token.** -/
theorem stop_eq (s : Scanner) : s.stop = s.settle.bind halt := by
  rw [stop, stopUpTo]
  refine Option.bind_congr fun s' hs' => ?_
  cases hr : s'.rest with
  | nil => exact (halt_of_nil hr).symm
  | cons c rest =>
    rw [halt_of_cons hr]
    refine Option.bind_congr fun s'' hs'' => ?_
    have hlt := length_token_lt hs' hr hs''
    exact stopUpTo_eq_of_lt (by omega) (by omega)

theorem run_eq_stopUpTo (n : Nat) (s : Scanner) :
    run n s = (stopUpTo n s).bind fun e => e.finish.map fun e => e.tokens.reverse := by
  induction n generalizing s with
  | zero => rfl
  | succ n ih =>
    rw [run_succ, stopUpTo, Option.bind_assoc]
    refine Option.bind_congr fun s' _ => ?_
    cases s'.rest with
    | nil => rfl
    | cons c rest =>
      simp only
      rw [Option.bind_assoc]
      exact Option.bind_congr fun s'' _ => ih s''

/-- The tokens of a text are those that the scanner has at its end. -/
theorem scan_eq_stop (s : Scanner) :
    s.scan = s.stop.bind fun e => e.finish.map fun e => e.tokens.reverse :=
  run_eq_stopUpTo ..

theorem rest_of_stop (h : s.stop = some s₁) : s₁.rest = [] := by
  induction s using tokenInduction with
  | h s ih =>
    rw [stop_eq] at h
    obtain ⟨s', hs', h⟩ := Option.bind_eq_some_iff.1 h
    cases hr : s'.rest with
    | nil =>
      rw [halt_of_nil hr] at h
      exact Option.some.inj h ▸ hr
    | cons c rest =>
      rw [halt_of_cons hr] at h
      obtain ⟨s'', hs'', h⟩ := Option.bind_eq_some_iff.1 h
      exact ih hs' hr hs'' h

end Gazetteer.Yaml.Scanner

namespace Gazetteer.Yaml

theorem tokens_eq (cs : List Char) :
    tokens cs = if cs.all isAllowed then Scanner.scan { rest := cs } else none := rfl

end Gazetteer.Yaml
