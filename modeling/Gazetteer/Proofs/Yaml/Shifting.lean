import Gazetteer.Proofs.Yaml.Scanning

/-!
# Where a text stands

What the scanner makes of the rest of a text does not depend on how much it has scanned before: from
a state with more characters, lines and tokens behind it (`Scanner.shift`) it adds the same tokens
(`Scanner.scan_shift`).
-/

namespace Gazetteer.Yaml

/-- A possible key with more text and tokens in front of it. -/
def PossibleKey.shift (i l n : Nat) (k : PossibleKey) : PossibleKey :=
  { k with position := k.position + n, index := k.index + i, line := k.line + l }

namespace Scanner

/-- A state with more text and tokens behind it. -/
def shift (i l : Nat) (base : List Token) (s : Scanner) : Scanner :=
  { s with
    index := s.index + i
    line := s.line + l
    tokens := s.tokens ++ base
    possible := s.possible.map (.shift i l base.length)
    possibleOuter := s.possibleOuter.map (·.map (.shift i l base.length)) }

variable {i l : Nat} {base : List Token}

section Fields

variable (s : Scanner)

@[simp] theorem rest_shift : (s.shift i l base).rest = s.rest := rfl
@[simp] theorem column_shift : (s.shift i l base).column = s.column := rfl
@[simp] theorem indent_shift : (s.shift i l base).indent = s.indent := rfl
@[simp] theorem outer_shift : (s.shift i l base).outer = s.outer := rfl
@[simp] theorem flow_shift : (s.shift i l base).flow = s.flow := rfl
@[simp] theorem keyAllowed_shift : (s.shift i l base).keyAllowed = s.keyAllowed := rfl

end Fields

/-- Two steps in a row. -/
theorem bind_map_of_mem {α β γ δ : Type} {x : Option α} {f : β → Option δ} {g : α → Option γ}
    {φ : α → β} {ψ : γ → δ} (h : ∀ a, x = some a → f (φ a) = (g a).map ψ) :
    (x.map φ).bind f = (x.bind g).map ψ := by
  cases x with
  | none => rfl
  | some a => exact h a rfl

theorem bind_shift {α β γ δ : Type} {x : Option α} {f : β → Option δ} {g : α → Option γ}
    {φ : α → β} {ψ : γ → δ} (h : ∀ a, f (φ a) = (g a).map ψ) :
    (x.map φ).bind f = (x.bind g).map ψ :=
  bind_map_of_mem fun a _ => h a

/-! ## Single steps -/

theorem advance_shift (s : Scanner) : (s.shift i l base).advance = s.advance.shift i l base := by
  simp [advance, shift, Nat.add_right_comm]

theorem advanceBy_shift (s : Scanner) (n : Nat) :
    (s.shift i l base).advanceBy n = (s.advanceBy n).shift i l base := by
  simp [advanceBy, shift, Nat.add_right_comm]

theorem advanceLine_shift (s : Scanner) :
    (s.shift i l base).advanceLine = s.advanceLine.shift i l base := by
  unfold advanceLine
  simp only [rest_shift]
  split <;> simp [shift, Nat.add_right_comm]

theorem insert_shift (s : Scanner) (n : Nat) (t : Token) :
    (s.shift i l base).insert (n + base.length) t = (s.insert n t).shift i l base := by
  have hlater : (s.tokens ++ base).length - (n + base.length) = s.tokens.length - n := by
    rw [List.length_append]
    omega
  have hle : s.tokens.length - n ≤ s.tokens.length := Nat.sub_le ..
  simp only [insert, shift, hlater, List.take_append_of_le_length hle,
    List.drop_append_of_le_length hle, List.append_assoc, List.cons_append]

theorem dropKey_shift (s : Scanner) :
    (s.shift i l base).dropKey = s.dropKey.map (shift i l base) := by
  unfold dropKey
  cases hk : s.possible with
  | none => simp [shift, hk]
  | some k =>
    cases hr : k.required <;> simp [shift, hk, hr, PossibleKey.shift]

theorem saveKey_shift (s : Scanner) :
    (s.shift i l base).saveKey = s.saveKey.map (shift i l base) := by
  unfold saveKey
  simp only [keyAllowed_shift, dropKey_shift]
  cases s.keyAllowed with
  | false => rfl
  | true =>
    cases s.dropKey with
    | none => rfl
    | some s =>
      simp [shift, PossibleKey.shift]

theorem dropStaleKey_shift (s : Scanner) :
    (s.shift i l base).dropStaleKey = s.dropStaleKey.map (shift i l base) := by
  unfold dropStaleKey
  cases hk : s.possible with
  | none => simp [shift, hk]
  | some k =>
    have hstale : k.line + l < s.line + l ∨ k.index + i + 1024 < s.index + i ↔
        k.line < s.line ∨ k.index + 1024 < s.index := by omega
    have hpossible : (s.shift i l base).possible = some (k.shift i l base.length) := by
      simp [shift, hk]
    simp only [hpossible]
    show (if k.line + l < s.line + l ∨ k.index + i + 1024 < s.index + i then _ else _) = _
    simp only [hstale, dropKey_shift]
    split <;> rfl

theorem indentTo_shift (s : Scanner) (column n : Nat) (t : Token) :
    (s.shift i l base).indentTo column (n + base.length) t =
      (s.indentTo column n t).shift i l base := by
  unfold indentTo
  simp only [flow_shift, indent_shift, insert_shift]
  split <;> rfl

theorem unindentFrom_shift (s : Scanner) (column : Int) (outer : List Int) :
    (s.shift i l base).unindentFrom column outer =
      (s.unindentFrom column outer).shift i l base := by
  induction outer generalizing s with
  | nil => rfl
  | cons j outer ih =>
    have hclose : ({ (s.shift i l base).emit .blockEnd with indent := j, outer } : Scanner) =
        ({ s.emit .blockEnd with indent := j, outer } : Scanner).shift i l base := rfl
    simp only [unindentFrom, indent_shift, hclose, ih]
    split <;> rfl

theorem unindentTo_shift (s : Scanner) (column : Int) :
    (s.shift i l base).unindentTo column = (s.unindentTo column).shift i l base := by
  unfold unindentTo
  simp only [flow_shift, outer_shift, unindentFrom_shift]
  split <;> rfl

theorem atDocumentMark_shift (s : Scanner) :
    (s.shift i l base).atDocumentMark = s.atDocumentMark := rfl

/-! ## Scalars -/

theorem plainUpTo_shift (n : Nat) (s : Scanner) (f : Folded) :
    plainUpTo n (s.shift i l base) f =
      (plainUpTo n s f).map fun (s, f) => (s.shift i l base, f) := by
  induction n generalizing s f with
  | zero => rfl
  | succ n ih =>
    unfold plainUpTo
    simp only [rest_shift, column_shift, indent_shift, flow_shift, atDocumentMark_shift,
      advance_shift, advanceLine_shift, ih]
    cases s.rest with
    | nil => rfl
    | cons c rest =>
      simp only [apply_ite (Option.map _), Option.map_none, Option.map_some]
      rfl

theorem plain_shift (s : Scanner) : (s.shift i l base).plain = s.plain.map (shift i l base) := by
  unfold plain
  rw [saveKey_shift]
  cases s.saveKey with
  | none => rfl
  | some s =>
    have hscalar : plainUpTo _ (shift i l base _) _ = _ :=
      plainUpTo_shift (s.rest.length + 1) { s with keyAllowed := false } {}
    refine (congrArg (Option.bind · _) hscalar).trans ?_
    simp only [Option.bind_eq_bind, Option.bind_some]
    cases plainUpTo (s.rest.length + 1) { s with keyAllowed := false } {} <;> rfl

theorem quotedUpTo_shift (quote : Char) (n : Nat) (s : Scanner) (f : Folded) :
    quotedUpTo quote n (s.shift i l base) f =
      (quotedUpTo quote n s f).map fun (s, f) => (s.shift i l base, f) := by
  induction n generalizing s f with
  | zero => rfl
  | succ n ih =>
    unfold quotedUpTo
    simp only [rest_shift, atDocumentMark_shift, advance_shift, advanceLine_shift, advanceBy_shift,
      ih]
    cases s.rest with
    | nil => split <;> rfl
    | cons c rest =>
      simp only [apply_ite (Option.map _), Option.map_none, Option.map_some]
      cases escape rest <;> simp only [Option.map_none]

theorem quoted_shift (s : Scanner) (quote : Char) :
    (s.shift i l base).quoted quote = (s.quoted quote).map (shift i l base) := by
  unfold quoted
  rw [saveKey_shift]
  cases s.saveKey with
  | none => rfl
  | some s =>
    have hscalar : quotedUpTo _ _ (shift i l base _) _ = _ := quotedUpTo_shift quote
      (({ s with keyAllowed := false } : Scanner).advance.rest.length + 1)
      ({ s with keyAllowed := false } : Scanner).advance {}
    rw [← advance_shift] at hscalar
    refine (congrArg (Option.bind · _) hscalar).trans ?_
    simp only [Option.bind_eq_bind, Option.bind_some]
    cases quotedUpTo quote _ ({ s with keyAllowed := false } : Scanner).advance {} <;> rfl

theorem blockBreaks_shift (indent : Option Nat) (deepest n : Nat) (s : Scanner)
    (breaks : List Char) :
    blockBreaks indent deepest n (s.shift i l base) breaks =
      (blockBreaks indent deepest n s breaks).map fun (s, r) => (s.shift i l base, r) := by
  induction n generalizing s deepest breaks with
  | zero => rfl
  | succ n ih =>
    unfold blockBreaks
    simp only [rest_shift, column_shift, advanceBy_shift, advanceLine_shift, ih]
    split
    · simp only [apply_ite (Option.map _), Option.map_none, Option.map_some]
    · rfl

theorem blockLines_shift (h : BlockHeader) (indent n : Nat) (s : Scanner)
    (text lead breaks : List Char) (blank : Bool) :
    blockLines h indent n (s.shift i l base) text lead breaks blank =
      (blockLines h indent n s text lead breaks blank).map fun (s, r) => (s.shift i l base, r) := by
  induction n generalizing s text lead breaks blank with
  | zero => rfl
  | succ n ih =>
    unfold blockLines
    simp only [rest_shift, column_shift, advanceBy_shift]
    cases s.rest with
    | nil => rfl
    | cons c rest =>
      simp only [apply_ite (Option.map _), Option.map_some]
      split
      · rfl
      · cases hrest : (s.advanceBy ((c :: rest).takeWhile fun c => !isBreak c).length).rest with
        | nil =>
          simp only [rest_shift, blockBreaks_shift]
          cases blockBreaks _ _ _ _ _ with
          | none => rfl
          | some r => simp only [Option.map_some, ih]
        | cons d rest' =>
          simp only [advanceLine_shift, rest_shift, blockBreaks_shift]
          cases blockBreaks _ _ _ _ _ with
          | none => rfl
          | some r => simp only [Option.map_some, ih]

theorem skipComment_shift (s : Scanner) :
    (s.shift i l base).skipComment = s.skipComment.shift i l base := by
  unfold skipComment
  simp only [rest_shift, advanceBy_shift]
  split <;> rfl

theorem endLine_shift (s : Scanner) :
    (s.shift i l base).endLine = s.endLine.map (shift i l base) := by
  unfold endLine
  simp only [rest_shift, advanceLine_shift]
  cases s.rest with
  | nil => rfl
  | cons c rest => cases hb : isBreak c <;> simp [hb]

theorem blockHeader_shift (s : Scanner) (folded : Bool) :
    (s.shift i l base).blockHeader folded =
      (s.blockHeader folded).map fun (h, s) => (h, s.shift i l base) := by
  unfold blockHeader
  simp only [rest_shift, advanceBy_shift, skipComment_shift, endLine_shift, Option.map_map]
  rw [Option.map_bind]
  refine congrArg (Option.bind _) (funext fun h => ?_)
  rw [Function.comp_apply, Option.map_map]
  rfl

theorem blockText_shift (s : Scanner) (h : BlockHeader) :
    (s.shift i l base).blockText h = (s.blockText h).map (shift i l base) := by
  unfold blockText
  simp only [rest_shift, indent_shift, blockBreaks_shift, Option.bind_eq_bind]
  refine bind_shift fun r => ?_
  obtain ⟨s, breaks, deepest⟩ := r
  simp only [indent_shift, rest_shift, blockLines_shift]
  exact bind_shift fun r => rfl

theorem block_shift (s : Scanner) (folded : Bool) :
    (s.shift i l base).block folded = (s.block folded).map (shift i l base) := by
  rw [block_eq, block_eq, dropKey_shift]
  refine bind_shift fun s => ?_
  have hstart : (shift i l base _).advance = _ := advance_shift { s with keyAllowed := true }
  refine (congrArg (fun s => (blockHeader folded s).bind fun (h, s) => blockText h s)
    hstart).trans ?_
  simp only [blockHeader_shift]
  cases blockHeader folded ({ s with keyAllowed := true } : Scanner).advance with
  | none => rfl
  | some r => exact blockText_shift ..

/-! ## Other tokens -/

theorem skipToToken_shift (n : Nat) (s : Scanner) :
    skipToToken n (s.shift i l base) = (skipToToken n s).shift i l base := by
  induction n generalizing s with
  | zero => rfl
  | succ n ih =>
    unfold skipToToken
    simp only [rest_shift, flow_shift, keyAllowed_shift, advance_shift, advanceBy_shift,
      advanceLine_shift, ih]
    cases s.rest with
    | nil => rfl
    | cons c rest =>
      have hline := ih { s.advanceLine with keyAllowed := true }
      simp only [apply_ite (shift i l base), apply_ite (skipToToken n), ih]
      rw [← hline]
      rfl

theorem openFlow_shift (s : Scanner) (t : Token) :
    (s.shift i l base).openFlow t = (s.openFlow t).map (shift i l base) := by
  unfold openFlow
  rw [saveKey_shift]
  refine bind_shift fun s => ?_
  simp [shift, advance, emit, Nat.add_right_comm]

theorem closeFlow_shift (s : Scanner) (t : Token) :
    (s.shift i l base).closeFlow t = (s.closeFlow t).map (shift i l base) := by
  unfold closeFlow
  rw [dropKey_shift]
  refine bind_shift fun s => ?_
  cases hk : s.possibleOuter <;> simp [shift, advance, emit, hk, Nat.add_right_comm]

theorem flowEntry_shift (s : Scanner) :
    (s.shift i l base).flowEntry = s.flowEntry.map (shift i l base) := by
  unfold flowEntry
  rw [dropKey_shift]
  refine bind_shift fun s => ?_
  simp [shift, advance, emit, Nat.add_right_comm]

theorem indentHere_shift (s : Scanner) (t : Token) :
    (s.shift i l base).indentHere t = (s.indentHere t).map (shift i l base) := by
  have hlength : (s.shift i l base).tokens.length = s.tokens.length + base.length :=
    List.length_append
  unfold indentHere
  simp only [flow_shift, keyAllowed_shift, column_shift, hlength, indentTo_shift,
    apply_ite (Option.map _), Option.map_some, Option.map_none]

/-- A mark that may open a block collection and ends a possible key. -/
theorem indentHere_bind_shift {g : Scanner → Option Scanner}
    (hg : ∀ s, g (s.shift i l base) = (g s).map (shift i l base)) (s : Scanner) (t : Token) :
    ((s.shift i l base).indentHere t).bind (fun s => s.dropKey.bind g) =
      ((s.indentHere t).bind fun s => s.dropKey.bind g).map (shift i l base) := by
  rw [indentHere_shift]
  refine bind_shift fun s => ?_
  rw [dropKey_shift]
  exact bind_shift hg

theorem blockEntry_shift (s : Scanner) :
    (s.shift i l base).blockEntry = s.blockEntry.map (shift i l base) := by
  rw [blockEntry_eq, blockEntry_eq]
  exact indentHere_bind_shift (fun s => by simp [shift, advance, emit, Nat.add_right_comm]) s _

theorem explicitKey_shift (s : Scanner) :
    (s.shift i l base).explicitKey = s.explicitKey.map (shift i l base) := by
  rw [explicitKey_eq, explicitKey_eq]
  exact indentHere_bind_shift (fun s => by simp [shift, advance, emit, Nat.add_right_comm]) s _

theorem value_shift (s : Scanner) : (s.shift i l base).value = s.value.map (shift i l base) := by
  cases hk : s.possible with
  | some k =>
    have hk' : (s.shift i l base).possible = some (k.shift i l base.length) := by simp [shift, hk]
    rw [value_of_some hk, value_of_some hk']
    show some _ = some _
    have hindent : ((s.shift i l base).insert (k.position + base.length) .key).indentTo k.column
        (k.position + base.length) .blockMappingStart =
          ((s.insert k.position .key).indentTo k.column k.position .blockMappingStart).shift i l
            base := by
      rw [insert_shift, indentTo_shift]
    simp only [PossibleKey.shift, hindent]
    simp [shift, advance, emit, Nat.add_right_comm]
  | none =>
    have hk' : (s.shift i l base).possible = none := by simp [shift, hk]
    rw [value_of_none hk, value_of_none hk', indentHere_shift]
    refine bind_shift fun s => ?_
    simp [shift, advance, emit, Nat.add_right_comm]

theorem name_shift (s : Scanner) (token : String → Token) :
    (s.shift i l base).name token = (s.name token).map (shift i l base) := by
  unfold name
  rw [saveKey_shift]
  refine bind_shift fun s => ?_
  simp only [apply_ite (Option.map _), Option.map_none]
  simp [shift, advance, advanceBy, emit, Nat.add_right_comm]

theorem tag_shift (s : Scanner) : (s.shift i l base).tag = s.tag.map (shift i l base) := by
  unfold tag
  rw [saveKey_shift]
  refine bind_shift fun s => ?_
  simp [shift, advanceBy, emit, Nat.add_right_comm]

theorem documentMark_shift (s : Scanner) (t : Token) :
    (s.shift i l base).documentMark t = (s.documentMark t).map (shift i l base) := by
  unfold documentMark
  rw [unindentTo_shift, dropKey_shift]
  refine bind_shift fun s => ?_
  simp [shift, advanceBy, emit, Nat.add_right_comm]

theorem directive_shift (s : Scanner) :
    (s.shift i l base).directive = s.directive.map (shift i l base) := by
  unfold directive
  rw [unindentTo_shift, dropKey_shift]
  refine bind_shift fun s => ?_
  simp [shift, advanceBy, emit, Nat.add_right_comm]

theorem token_shift (s : Scanner) (c : Char) (rest : List Char) :
    (s.shift i l base).token c rest = (s.token c rest).map (shift i l base) := by
  unfold token
  simp only [column_shift, flow_shift, atDocumentMark_shift, directive_shift, documentMark_shift,
    openFlow_shift, closeFlow_shift, flowEntry_shift, blockEntry_shift, explicitKey_shift,
    value_shift, name_shift, tag_shift, block_shift, quoted_shift, plain_shift,
    apply_ite (Option.map _), Option.map_none]

/-! ## Scanning on -/

theorem settle_shift (s : Scanner) : (s.shift i l base).settle = s.settle.map (shift i l base) := by
  unfold settle
  rw [rest_shift, skipToToken_shift, dropStaleKey_shift, Option.map_map, Option.map_map]
  exact congrArg (Option.map · _) (funext fun s => unindentTo_shift s _)

/-- **The rest of a text is scanned in the same way wherever it stands.** -/
theorem stop_shift (s : Scanner) : (s.shift i l base).stop = s.stop.map (shift i l base) := by
  induction s using tokenInduction with
  | h s ih =>
    rw [stop_eq, stop_eq, settle_shift]
    cases hs : s.settle with
    | none => rfl
    | some s' =>
      simp only [Option.map_some, Option.bind_some]
      unfold halt
      rw [rest_shift]
      cases hr : s'.rest with
      | nil => rfl
      | cons c rest =>
        simp only [token_shift]
        cases ht : s'.token c rest with
        | none => rfl
        | some s'' => exact ih hs hr ht

theorem halt_shift (s : Scanner) : (s.shift i l base).halt = s.halt.map (shift i l base) := by
  unfold halt
  rw [rest_shift]
  cases s.rest with
  | nil => rfl
  | cons c rest =>
    simp only [token_shift]
    exact bind_shift stop_shift

end Scanner

end Gazetteer.Yaml
