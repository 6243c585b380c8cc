import Gazetteer.Proofs.Yaml.Shifting
import Mathlib.Data.List.TakeWhile

/-!
# Text that goes on

A text whose last line has its line break is scanned in the same way whether it ends there or goes
on with a word at the margin, if a block collection is open at its end and no flow collection is
(`Scanner.stop_extend`). So the scanner gets to the same state, with the word in front of it.
-/

namespace Gazetteer.Yaml

open Scanner (isIndicator isFlowMark)

variable {Y cs ds : List Char} {c : Char}

/-! ## Lines and words -/

/-- A text that is empty or ends with a line feed. -/
def EndsLine (cs : List Char) : Prop := ∀ c ∈ cs.getLast?, c = '\n'

theorem EndsLine.suffix (h : EndsLine cs) (hs : ds <:+ cs) : EndsLine ds := by
  intro c hc
  obtain ⟨w, rfl⟩ := hs
  refine h c ?_
  rw [List.getLast?_append, Option.mem_def.1 hc]
  rfl

/-- A text that goes on with something that is seen: no blank, line break or comment. -/
def StartsWord (cs : List Char) : Prop :=
  ∃ c rest, cs = c :: rest ∧ isBlank c = false ∧ isBreak c = false ∧ c ≠ '#'

theorem EndsLine.mem_of_ne_nil (h : EndsLine cs) (hne : cs ≠ []) : '\n' ∈ cs := by
  have hlast := List.getLast?_eq_some_getLast hne
  rw [h _ hlast] at hlast
  exact List.mem_of_getLast? hlast

/-- In a line something follows any character but the last. -/
theorem EndsLine.ne_nil_of_cons (h : EndsLine (c :: cs)) (hc : isBreak c = false) : cs ≠ [] := by
  rintro rfl
  obtain rfl := h c rfl
  cases hc

theorem EndsLine.takeWhile_append {p : Char → Bool} (h : EndsLine cs) (hne : cs ≠ [])
    (hp : p '\n' = false) (Y : List Char) : (cs ++ Y).takeWhile p = cs.takeWhile p := by
  have hmem := h.mem_of_ne_nil hne
  clear h hne
  induction cs with
  | nil => cases hmem
  | cons c cs ih =>
    rw [List.cons_append, List.takeWhile_cons, List.takeWhile_cons]
    cases hc : p c with
    | false => rfl
    | true =>
      have hin : '\n' ∈ cs := by
        rcases List.mem_cons.1 hmem with rfl | hin
        · rw [hp] at hc
          cases hc
        · exact hin
      simp only [if_true, ih hin]

theorem EndsLine.drop_takeWhile_ne_nil {p : Char → Bool} (h : EndsLine cs) (hne : cs ≠ [])
    (hp : p '\n' = false) : cs.drop (cs.takeWhile p).length ≠ [] := by
  intro hnil
  have hall : cs.takeWhile p = cs := by
    have happend := List.take_append_drop (cs.takeWhile p).length cs
    rw [hnil, List.append_nil] at happend
    exact ((List.takeWhile_prefix p).eq_of_length_le (List.drop_eq_nil_iff.1 hnil))
  have hmem := h.mem_of_ne_nil hne
  rw [← hall] at hmem
  have htrue := List.mem_takeWhile_imp hmem
  rw [hp] at htrue
  cases htrue

/-- What cannot start a word. -/
theorem StartsWord.cases (h : StartsWord Y) : ∃ c rest, Y = c :: rest ∧ isBlank c = false ∧
    isBreak c = false ∧ c ≠ '#' ∧ c ≠ ' ' ∧ c ≠ '\t' := by
  obtain ⟨c, rest, rfl, hblank, hbreak, hhash⟩ := h
  refine ⟨c, rest, rfl, hblank, hbreak, hhash, ?_, ?_⟩
  · rintro rfl
    cases hblank
  · rintro rfl
    cases hblank

theorem endsWord_append (h : cs ≠ []) (Y : List Char) : endsWord (cs ++ Y) = endsWord cs := by
  obtain ⟨c, cs, rfl⟩ := List.exists_cons_of_ne_nil h
  rfl

/-- Two choices by one condition, compared side by side. -/
theorem ite_eq_of_ite_eq {α β : Type} {p : Prop} [Decidable p] {x y a : α} {x' y' b : β}
    (h : (if p then x else y) = a) (hx : p → x = a → x' = b) (hy : ¬p → y = a → y' = b) :
    (if p then x' else y') = b := by
  by_cases hp : p
  · rw [if_pos hp] at h ⊢
    exact hx hp h
  · rw [if_neg hp] at h ⊢
    exact hy hp h

namespace Scanner

variable {s s₁ : Scanner} {f f₁ : Folded} {rest : List Char} {n m : Nat}

/-- A state with more text in front of it. -/
def extend (Y : List Char) (s : Scanner) : Scanner := { s with rest := s.rest ++ Y }

section Fields

variable (s : Scanner)

@[simp] theorem rest_extend : (s.extend Y).rest = s.rest ++ Y := rfl
@[simp] theorem column_extend : (s.extend Y).column = s.column := rfl
@[simp] theorem indent_extend : (s.extend Y).indent = s.indent := rfl
@[simp] theorem outer_extend : (s.extend Y).outer = s.outer := rfl
@[simp] theorem flow_extend : (s.extend Y).flow = s.flow := rfl
@[simp] theorem keyAllowed_extend : (s.extend Y).keyAllowed = s.keyAllowed := rfl
@[simp] theorem possible_extend : (s.extend Y).possible = s.possible := rfl
@[simp] theorem tokens_extend : (s.extend Y).tokens = s.tokens := rfl

end Fields

/-! ## Single steps -/

theorem advanceBy_extend (h : n ≤ s.rest.length) :
    (s.extend Y).advanceBy n = (s.advanceBy n).extend Y := by
  simp [advanceBy, extend, List.drop_append_of_le_length h]

theorem advance_extend (h : s.rest ≠ []) : (s.extend Y).advance = s.advance.extend Y := by
  obtain ⟨c, rest, hr⟩ := List.exists_cons_of_ne_nil h
  simp [advance, extend, hr]

theorem advanceLine_extend (hline : EndsLine s.rest) (h : s.rest ≠ []) :
    (s.extend Y).advanceLine = s.advanceLine.extend Y := by
  obtain ⟨c, rest, hr⟩ := List.exists_cons_of_ne_nil h
  unfold advanceLine
  simp only [rest_extend, hr, List.cons_append]
  by_cases hc : c = '\r'
  · subst hc
    obtain ⟨d, rest, rfl⟩ := List.exists_cons_of_ne_nil (fun hnil : rest = [] => by
      have := hline '\r' (by simp [hr, hnil])
      cases this)
    by_cases hd : d = '\n' <;> simp [extend, hd]
  · simp [extend, hc]

theorem insert_extend (s : Scanner) (n : Nat) (t : Token) :
    (s.extend Y).insert n t = (s.insert n t).extend Y := rfl

theorem dropKey_extend (s : Scanner) : (s.extend Y).dropKey = s.dropKey.map (extend Y) := by
  unfold dropKey
  simp only [possible_extend]
  cases s.possible with
  | none => rfl
  | some k => cases hr : k.required <;> simp [extend, hr]

theorem saveKey_extend (s : Scanner) : (s.extend Y).saveKey = s.saveKey.map (extend Y) := by
  unfold saveKey
  simp only [keyAllowed_extend, dropKey_extend]
  cases s.keyAllowed with
  | false => rfl
  | true => exact bind_shift fun s => rfl

theorem dropStaleKey_extend (s : Scanner) :
    (s.extend Y).dropStaleKey = s.dropStaleKey.map (extend Y) := by
  unfold dropStaleKey
  simp only [possible_extend, dropKey_extend]
  cases s.possible with
  | none => rfl
  | some k =>
    show (if k.line < s.line ∨ k.index + 1024 < s.index then _ else _) = _
    simp only [apply_ite (Option.map _), Option.map_some]

theorem indentTo_extend (s : Scanner) (column n : Nat) (t : Token) :
    (s.extend Y).indentTo column n t = (s.indentTo column n t).extend Y := by
  unfold indentTo
  by_cases h : s.flow = 0 ∧ s.indent < column
  · rw [if_pos h, if_pos (show (s.extend Y).flow = 0 ∧ (s.extend Y).indent < column from h)]
    rfl
  · rw [if_neg h, if_neg (show ¬((s.extend Y).flow = 0 ∧ (s.extend Y).indent < column) from h)]

theorem unindentFrom_extend (s : Scanner) (column : Int) (outer : List Int) :
    (s.extend Y).unindentFrom column outer = (s.unindentFrom column outer).extend Y := by
  induction outer generalizing s with
  | nil => rfl
  | cons j outer ih =>
    have hclose : ({ (s.extend Y).emit .blockEnd with indent := j, outer } : Scanner) =
        ({ s.emit .blockEnd with indent := j, outer } : Scanner).extend Y := rfl
    simp only [unindentFrom, indent_extend, hclose, ih]
    split <;> rfl

theorem unindentTo_extend (s : Scanner) (column : Int) :
    (s.extend Y).unindentTo column = (s.unindentTo column).extend Y := by
  unfold unindentTo
  simp only [flow_extend, outer_extend, unindentFrom_extend]
  split <;> rfl

/-- A document mark does not reach over the end of its line. -/
theorem atDocumentMark_extend (hline : EndsLine s.rest) (h : s.rest ≠ []) :
    (s.extend Y).atDocumentMark = s.atDocumentMark := by
  unfold atDocumentMark
  simp only [column_extend, rest_extend]
  refine congrArg ((s.column == 0) && ·) ?_
  generalize s.rest = cs at hline h
  rcases cs with _ | ⟨a, _ | ⟨b, _ | ⟨c, _ | ⟨d, cs⟩⟩⟩⟩
  · exact absurd rfl h
  · obtain rfl := hline a rfl
    simp
  · obtain rfl := hline b rfl
    simp
  · obtain rfl := hline c rfl
    simp
  · -- the mark and the character behind it are in the line
    have hrest : endsWord (d :: (cs ++ Y)) = endsWord (d :: cs) := rfl
    by_cases hdash : a = '-' ∧ b = '-' ∧ c = '-'
    · obtain ⟨rfl, rfl, rfl⟩ := hdash
      exact hrest
    · by_cases hdot : a = '.' ∧ b = '.' ∧ c = '.'
      · obtain ⟨rfl, rfl, rfl⟩ := hdot
        exact hrest
      · simp only [List.cons_append]
        split
        · simp_all
        · simp_all
        · split <;> simp_all

/-! ## Plain scalars and scalars in quotes -/

/-- Where a state can be at the end of a text so that a word at the margin goes on with the
collection that is open. -/
structure IsOpen (s : Scanner) : Prop where
  column : s.column = 0
  flow : s.flow = 0
  indent : 0 ≤ s.indent

theorem length_advanceLine_lt (h : s.rest ≠ []) : s.advanceLine.rest.length < s.rest.length := by
  obtain ⟨c, rest, hr⟩ := List.exists_cons_of_ne_nil h
  have hle := (advanceLine_suffix s).length_le
  rw [hr, List.length_drop, List.length_cons] at hle
  rw [hr, List.length_cons]
  omega

theorem isSome_lead_newline (f : Folded) (c : Char) : (f.newline c).lead.isSome = true := by
  unfold Folded.newline
  split
  · rfl
  · rename_i hlead
    exact Option.isSome_iff_ne_none.2 (by simpa using hlead)

/-- A word at the margin does not go on with a plain scalar. -/
theorem plainUpTo_extend_of_nil (hY : StartsWord Y) (hr : s.rest = []) (hopen : s.IsOpen)
    (hlead : f.lead.isSome = true) : plainUpTo (m + 1) (s.extend Y) f = some (s.extend Y, f) := by
  obtain ⟨c, rest, rfl, hblank, hbreak, -⟩ := hY.cases
  obtain ⟨hcolumn, hflow, hindent⟩ := hopen
  have hends : (s.flow == 0 && decide ((s.column : Int) < s.indent + 1)) = true := by
    rw [hcolumn, hflow]
    simp
    omega
  unfold plainUpTo
  simp only [rest_extend, hr, List.nil_append, hbreak, hblank, column_extend, indent_extend,
    flow_extend, hlead, Bool.true_or, Bool.true_and, Bool.false_eq_true, if_false]
  exact if_pos (congrArg (· || _ || _) hends)

theorem plainUpTo_extend (hY : StartsWord Y) (hline : EndsLine s.rest) (hn : s.rest.length < n)
    (hm : (s.rest ++ Y).length < m) (hlead : s.rest = [] → f.lead.isSome = true)
    (h : plainUpTo n s f = some (s₁, f₁)) (hopen : s₁.rest = [] → s₁.IsOpen) :
    plainUpTo m (s.extend Y) f = some (s₁.extend Y, f₁) := by
  induction n generalizing s f m with
  | zero => omega
  | succ n ih =>
    obtain ⟨m, rfl⟩ : ∃ k, m = k + 1 := ⟨m - 1, by omega⟩
    unfold plainUpTo at h
    cases hr : s.rest with
    | nil =>
      simp only [hr] at h
      obtain ⟨rfl, rfl⟩ := Prod.mk.inj (Option.some.inj h)
      exact plainUpTo_extend_of_nil hY hr (hopen hr) (hlead hr)
    | cons c rest =>
      unfold plainUpTo
      have hne : s.rest ≠ [] := by simp [hr]
      have hlength : s.rest.length = rest.length + 1 := by rw [hr, List.length_cons]
      have hmlength : (s.rest ++ Y).length = s.rest.length + Y.length := List.length_append
      have hadvance : s.advance.rest = rest := by simp [hr]
      simp only [hr] at h
      simp only [rest_extend, hr, List.cons_append]
      cases hbreak : isBreak c with
      | true =>
        have hlt := length_advanceLine_lt hne
        simp only [hbreak, if_true] at h
        simp only [if_true]
        rw [advanceLine_extend hline hne]
        refine ih (hline.suffix (advanceLine_suffix' s)) (by omega) ?_ (fun _ => ?_) h
        · rw [List.length_append]
          omega
        · exact isSome_lead_newline f c
      | false =>
        have hrest : rest ≠ [] := (hr ▸ hline : EndsLine (c :: rest)).ne_nil_of_cons hbreak
        have hline' : EndsLine s.advance.rest := hline.suffix (List.drop_suffix ..)
        have hnil : ∀ f : Folded, s.advance.rest = [] → f.lead.isSome = true := fun f hnil =>
          absurd (hadvance.symm.trans hnil) hrest
        have hstep : ∀ {f : Folded}, plainUpTo n s.advance f = some (s₁, f₁) →
            plainUpTo m (s.extend Y).advance f = some (s₁.extend Y, f₁) := fun {f} h => by
          rw [advance_extend hne]
          refine ih hline' (by rw [hadvance]; omega) ?_ (hnil f) h
          rw [hadvance, List.length_append]
          omega
        have hmark : (s.extend Y).atDocumentMark = s.atDocumentMark :=
          atDocumentMark_extend hline hne
        simp only [hbreak, Bool.false_eq_true, if_false] at h ⊢
        simp only [column_extend, indent_extend, flow_extend, hmark, List.head?_append_of_ne_nil _ hrest,
          endsWord_append hrest]
        have hstop : some (s, f) = some (s₁, f₁) → some (s.extend Y, f) = some (s₁.extend Y, f₁) :=
          fun h => by
            obtain ⟨rfl, rfl⟩ := Prod.mk.inj (Option.some.inj h)
            rfl
        refine ite_eq_of_ite_eq h (fun _ h => ?_) fun _ h => ?_
        · exact ite_eq_of_ite_eq h (fun _ h => absurd h (Option.some_ne_none _).symm) fun _ => hstep
        refine ite_eq_of_ite_eq h (fun _ => hstop) fun _ h => ?_
        refine ite_eq_of_ite_eq h (fun _ h => absurd h (Option.some_ne_none _).symm) fun _ h => ?_
        exact ite_eq_of_ite_eq h (fun _ => hstop) fun _ => hstep

theorem plain_extend (hY : StartsWord Y) (hline : EndsLine s.rest) (hne : s.rest ≠ [])
    (h : s.plain = some s₁) (hopen : s₁.rest = [] → s₁.IsOpen) :
    (s.extend Y).plain = some (s₁.extend Y) := by
  obtain ⟨s', hs', h⟩ := Option.bind_eq_some_iff.1 h
  obtain ⟨⟨s'', f⟩, hscalar, h⟩ := Option.bind_eq_some_iff.1 h
  obtain rfl := Option.some.inj h
  have hrest : s'.rest = s.rest := rest_of_saveKey hs'
  have hscalar := plainUpTo_extend (s := { s' with keyAllowed := false })
    (m := (s'.rest ++ Y).length + 1) hY (hrest ▸ hline) (Nat.lt_succ_self _) (Nat.lt_succ_self _)
    (fun hnil => absurd (hrest ▸ hnil) hne) hscalar
    fun hnil => ⟨(hopen hnil).column, (hopen hnil).flow, (hopen hnil).indent⟩
  unfold plain
  rw [saveKey_extend, hs']
  refine (congrArg (Option.bind · _) hscalar).trans rfl

theorem hexEscape_append {k : Nat} {d : Char} (h : hexEscape n cs = some (d, k)) (Y : List Char) :
    hexEscape n (cs ++ Y) = some (d, k) ∧ k ≤ cs.length + 1 := by
  have hlength : (cs.take n).length = n := by
    unfold hexEscape at h
    simp only at h
    split_ifs at h with hdigits
    exact hdigits.1
  have hle : n ≤ cs.length := by
    rw [List.length_take] at hlength
    omega
  have htake : (cs ++ Y).take n = cs.take n := List.take_append_of_le_length hle
  have hk : k = n + 1 := by
    unfold hexEscape at h
    simp only at h
    split_ifs at h
    exact (Prod.mk.inj (Option.some.inj h)).2.symm
  refine ⟨?_, by omega⟩
  rw [← h]
  unfold hexEscape
  simp only [htake]

theorem escape_append {k : Nat} {d : Char} (h : escape cs = some (d, k)) (Y : List Char) :
    escape (cs ++ Y) = some (d, k) ∧ k ≤ cs.length := by
  unfold escape at h
  split at h
  all_goals first
    | exact ⟨(hexEscape_append h Y).1, (hexEscape_append h Y).2⟩
    | cases h
  all_goals exact ⟨rfl, by simp⟩

theorem quotedUpTo_extend {quote : Char} (hline : EndsLine s.rest)
    (hnm : n ≤ m) (h : quotedUpTo quote n s f = some (s₁, f₁)) :
    quotedUpTo quote m (s.extend Y) f = some (s₁.extend Y, f₁) := by
  induction n generalizing s f m with
  | zero => cases h
  | succ n ih =>
    obtain ⟨m, rfl⟩ : ∃ k, m = k + 1 := ⟨m - 1, by omega⟩
    have hnm : n ≤ m := by omega
    unfold quotedUpTo at h ⊢
    rcases ite_eq_iff.1 h with ⟨-, h⟩ | ⟨hmark, h⟩
    · cases h
    cases hr : s.rest with
    | nil =>
      simp only [hr] at h
      cases h
    | cons c rest =>
      have hne : s.rest ≠ [] := by simp [hr]
      have hline' : ∀ {cs}, cs <:+ s.rest → EndsLine cs := fun hs => hline.suffix hs
      rw [if_neg (by rwa [atDocumentMark_extend hline hne])]
      simp only [hr] at h
      simp only [rest_extend, hr, List.cons_append]
      cases hbreak : isBreak c with
      | true =>
        simp only [hbreak, if_true] at h ⊢
        rw [advanceLine_extend hline hne]
        exact ih (hline' (advanceLine_suffix' s)) hnm h
      | false =>
        have hrest : rest ≠ [] := (hr ▸ hline : EndsLine (c :: rest)).ne_nil_of_cons hbreak
        have hadvance : s.advance.rest = rest := by simp [hr]
        have hstep : ∀ {f : Folded}, quotedUpTo quote n s.advance f = some (s₁, f₁) →
            quotedUpTo quote m (s.extend Y).advance f = some (s₁.extend Y, f₁) := fun h => by
          rw [advance_extend hne]
          exact ih (hline' (List.drop_suffix ..)) hnm h
        have hsteps : ∀ {f : Folded} {k : Nat}, k ≤ s.rest.length →
            quotedUpTo quote n (s.advanceBy k) f = some (s₁, f₁) →
            quotedUpTo quote m ((s.extend Y).advanceBy k) f = some (s₁.extend Y, f₁) :=
          fun hk h => by
            rw [advanceBy_extend hk]
            exact ih (hline' (List.drop_suffix ..)) hnm h
        have hlength : s.rest.length = rest.length + 1 := by rw [hr, List.length_cons]
        have hpos := List.length_pos_iff.2 hrest
        simp only [hbreak, Bool.false_eq_true, if_false] at h ⊢
        rw [List.head?_append_of_ne_nil _ hrest]
        refine ite_eq_of_ite_eq h (fun _ => hstep) fun _ h => ?_
        refine ite_eq_of_ite_eq h (fun _ h => ?_) fun _ h => ?_
        · -- two quotes are one character, one of them is the end
          refine ite_eq_of_ite_eq h (fun _ => hsteps (by omega)) fun _ h => ?_
          obtain ⟨rfl, rfl⟩ := Prod.mk.inj (Option.some.inj h)
          rw [advance_extend hne]
        refine ite_eq_of_ite_eq h (fun _ h => ?_) fun _ => hstep
        refine ite_eq_of_ite_eq h (fun _ h => ?_) fun _ h => ?_
        · rw [advance_extend hne,
            advanceLine_extend (hline' (List.drop_suffix ..)) (by rwa [hadvance])]
          exact ih (hline' ((advanceLine_suffix' _).trans (List.drop_suffix ..))) hnm h
        · cases hesc : escape rest with
          | none =>
            rw [hesc] at h
            cases h
          | some r =>
            obtain ⟨d, k⟩ := r
            rw [hesc] at h
            obtain ⟨hesc', hk⟩ := escape_append hesc Y
            rw [hesc']
            exact hsteps (by omega) h

theorem quoted_extend {quote : Char} (hline : EndsLine s.rest)
    (hne : s.rest ≠ []) (h : s.quoted quote = some s₁) :
    (s.extend Y).quoted quote = some (s₁.extend Y) := by
  obtain ⟨s', hs', h⟩ := Option.bind_eq_some_iff.1 h
  obtain ⟨⟨s'', f⟩, hscalar, h⟩ := Option.bind_eq_some_iff.1 h
  obtain rfl := Option.some.inj h
  have hrest : s'.rest = s.rest := rest_of_saveKey hs'
  have hadvance := advance_extend (Y := Y) (s := { s' with keyAllowed := false })
    (by rwa [hrest])
  have hscalar := quotedUpTo_extend (Y := Y)
    (m := (({ s' with keyAllowed := false } : Scanner).extend Y).advance.rest.length + 1)
    ((hrest ▸ hline : EndsLine s'.rest).suffix (List.drop_suffix ..)) ?_ hscalar
  · rw [← hadvance] at hscalar
    unfold quoted
    rw [saveKey_extend, hs']
    exact (congrArg (Option.bind · _) hscalar).trans rfl
  · rw [hadvance, rest_extend, List.length_append]
    omega

/-! ## Block scalars -/

theorem passIndent_extend (indent : Option Nat) (hY : StartsWord Y) (hline : EndsLine s.rest) :
    (s.extend Y).passIndent indent = (s.passIndent indent).extend Y := by
  have hspaces : ((s.rest ++ Y).takeWhile (· == ' ')).length =
      (s.rest.takeWhile (· == ' ')).length := by
    by_cases hne : s.rest = []
    · obtain ⟨c, rest, rfl, -, -, -, hspace, -⟩ := hY.cases
      simp [hne, hspace]
    · rw [hline.takeWhile_append hne rfl]
  have hle := (List.takeWhile_prefix (· == ' ') (l := s.rest)).length_le
  unfold passIndent
  simp only [rest_extend, hspaces, column_extend]
  refine advanceBy_extend ?_
  cases indent with
  | none => exact hle
  | some i => exact (Nat.min_le_left ..).trans hle

theorem blockBreaks_extend {indent : Option Nat} {deepest deepest' : Nat}
    {breaks breaks' : List Char} (hY : StartsWord Y) (hline : EndsLine s.rest) (hnm : n ≤ m)
    (h : blockBreaks indent deepest n s breaks = some (s₁, breaks', deepest')) :
    blockBreaks indent deepest m (s.extend Y) breaks = some (s₁.extend Y, breaks', deepest') := by
  induction n generalizing s deepest breaks m with
  | zero => cases h
  | succ n ih =>
    obtain ⟨m, rfl⟩ : ∃ k, m = k + 1 := ⟨m - 1, by omega⟩
    rw [blockBreaks_succ] at h ⊢
    rw [passIndent_extend indent hY hline]
    have hline' := hline.suffix (passIndent_suffix indent s)
    generalize s.passIndent indent = s at h hline'
    cases hr : s.rest with
    | nil =>
      obtain ⟨c, rest, rfl, -, hbreak, -, -, htab⟩ := hY.cases
      simp only [hr] at h
      simp only [Option.some.injEq, Prod.mk.injEq] at h
      obtain ⟨rfl, rfl, rfl⟩ := h
      simp [hr, htab, hbreak]
    | cons c rest =>
      have hne : s.rest ≠ [] := by simp [hr]
      simp only [hr] at h
      simp only [rest_extend, hr, List.cons_append]
      refine ite_eq_of_ite_eq h (fun _ => nofun) fun _ h => ?_
      refine ite_eq_of_ite_eq h (fun _ h => ?_) fun _ h => ?_
      · rw [advanceLine_extend hline' hne]
        exact ih (hline'.suffix (advanceLine_suffix' s)) (by omega) h
      · simp only [Option.some.injEq, Prod.mk.injEq] at h
        obtain ⟨rfl, rfl, rfl⟩ := h
        rfl

theorem passLine_extend (hline : EndsLine s.rest) (hne : s.rest ≠ []) :
    (s.extend Y).passLine = (s.passLine.1.extend Y, s.passLine.2) := by
  have hrest := hline.drop_takeWhile_ne_nil (p := fun c => !isBreak c) hne rfl
  have hline' : EndsLine (s.rest.drop (s.rest.takeWhile fun c => !isBreak c).length) :=
    hline.suffix (List.drop_suffix ..)
  unfold passLine
  rw [rest_extend, hline.takeWhile_append hne rfl,
    advanceBy_extend (List.takeWhile_prefix _).length_le]
  generalize hs : s.advanceBy (s.rest.takeWhile fun c => !isBreak c).length = s'
  have hrest' : s'.rest ≠ [] := hs ▸ hrest
  obtain ⟨c, rest, hr⟩ := List.exists_cons_of_ne_nil hrest'
  simp only [rest_extend, hr, List.cons_append]
  rw [advanceLine_extend (hs ▸ hline') hrest']

theorem blockLines_extend {h : BlockHeader} {indent : Nat} {text lead breaks : List Char}
    {blank : Bool} {r : List Char × List Char × List Char} (hindent : 1 ≤ indent)
    (hY : StartsWord Y) (hline : EndsLine s.rest) (hnm : n ≤ m)
    (hs : blockLines h indent n s text lead breaks blank = some (s₁, r))
    (hopen : s₁.rest = [] → s₁.column = 0) :
    blockLines h indent m (s.extend Y) text lead breaks blank = some (s₁.extend Y, r) := by
  induction n generalizing s text lead breaks blank m with
  | zero => cases hs
  | succ n ih =>
    obtain ⟨m, rfl⟩ : ∃ k, m = k + 1 := ⟨m - 1, by omega⟩
    rw [blockLines_succ] at hs ⊢
    cases hr : s.rest with
    | nil =>
      -- the word is not indented as the text of the scalar is
      obtain ⟨c, rest, rfl, -⟩ := hY
      simp only [hr] at hs
      obtain ⟨rfl, rfl⟩ := Prod.mk.inj (Option.some.inj hs)
      have hcolumn : s.column ≠ indent := by
        rw [hopen hr]
        omega
      simp only [rest_extend, hr, List.nil_append]
      exact if_pos hcolumn
    | cons c rest =>
      have hne : s.rest ≠ [] := by simp [hr]
      simp only [hr] at hs
      simp only [rest_extend, hr, List.cons_append]
      refine ite_eq_of_ite_eq hs (fun _ hs => ?_) fun _ hs => ?_
      · obtain ⟨rfl, rfl⟩ := Prod.mk.inj (Option.some.inj hs)
        rfl
      · have hline' := hline.suffix (passLine_suffix s)
        obtain ⟨⟨s', breaks', deepest⟩, hbreaks, hs⟩ := Option.bind_eq_some_iff.1 hs
        have hs' := hline'.suffix (blockBreaks_suffix hbreaks)
        rw [passLine_extend hline hne, ← List.cons_append,
          (hr ▸ hline : EndsLine (c :: rest)).takeWhile_append (by simp) rfl]
        have hbreaks' := blockBreaks_extend hY hline' (m := (s.passLine.1.extend Y).rest.length + 1)
          (by simp) hbreaks
        refine (congrArg (Option.bind · _) hbreaks').trans ?_
        exact ih hs' (by omega) hs

theorem skipComment_extend (hline : EndsLine s.rest) (hne : s.rest ≠ []) :
    (s.extend Y).skipComment = s.skipComment.extend Y := by
  obtain ⟨c, rest, hr⟩ := List.exists_cons_of_ne_nil hne
  by_cases hc : c = '#'
  · subst hc
    unfold skipComment
    simp only [rest_extend, hr, List.cons_append]
    rw [← List.cons_append, ← hr, hline.takeWhile_append hne rfl,
      advanceBy_extend (List.takeWhile_prefix _).length_le]
  · have hskip : ∀ s : Scanner, s.rest.head? = some c → s.skipComment = s := fun s hs => by
      rcases skipComment_cases s with ⟨rest, hr, -⟩ | ⟨-, h⟩
      · rw [hr] at hs
        exact absurd (Option.some.inj hs).symm hc
      · exact h
    rw [hskip s (by simp [hr]), hskip (s.extend Y) (by simp [hr])]

theorem skipComment_ne_nil (hline : EndsLine s.rest) (hne : s.rest ≠ []) :
    s.skipComment.rest ≠ [] := by
  rcases skipComment_cases s with ⟨rest, hr, h⟩ | ⟨-, h⟩
  · rw [h]
    exact hline.drop_takeWhile_ne_nil hne rfl
  · rwa [h]

theorem endLine_extend (hline : EndsLine s.rest) (hne : s.rest ≠ []) :
    (s.extend Y).endLine = s.endLine.map (extend Y) := by
  obtain ⟨c, rest, hr⟩ := List.exists_cons_of_ne_nil hne
  unfold endLine
  simp only [rest_extend, hr, List.cons_append]
  rw [advanceLine_extend hline hne]
  split <;> rfl

theorem blockHeader_extend {folded : Bool} (hline : EndsLine s.rest) (hne : s.rest ≠ []) :
    (s.extend Y).blockHeader folded =
      (s.blockHeader folded).map fun (h, s) => (h, s.extend Y) := by
  unfold blockHeader
  rw [rest_extend, hline.takeWhile_append hne (by decide), Option.map_bind]
  refine congrArg (Option.bind _) (funext fun h => ?_)
  simp only [Function.comp_apply]
  rw [advanceBy_extend (List.takeWhile_prefix _).length_le]
  have hmarks : (s.advanceBy (s.rest.takeWhile
      fun c => c == '+' || c == '-' || c.isDigit).length).rest ≠ [] :=
    hline.drop_takeWhile_ne_nil hne (by decide)
  have hline' : EndsLine (s.advanceBy (s.rest.takeWhile
      fun c => c == '+' || c == '-' || c.isDigit).length).rest := hline.suffix (List.drop_suffix ..)
  generalize s.advanceBy _ = s at hmarks hline'
  rw [rest_extend, hline'.takeWhile_append hmarks (by decide),
    advanceBy_extend (List.takeWhile_prefix _).length_le]
  have hblanks : (s.advanceBy (s.rest.takeWhile isBlank).length).rest ≠ [] :=
    hline'.drop_takeWhile_ne_nil hmarks (by decide)
  have hline'' : EndsLine (s.advanceBy (s.rest.takeWhile isBlank).length).rest :=
    hline'.suffix (List.drop_suffix ..)
  generalize s.advanceBy _ = s at hblanks hline''
  rw [skipComment_extend hline'' hblanks,
    endLine_extend (hline''.suffix (skipComment_suffix s)) (skipComment_ne_nil hline'' hblanks),
    Option.map_map, Option.map_map]
  rfl

/-- An indentation that a header gives is not nothing. -/
theorem blockHeader_indent {folded : Bool} {h : BlockHeader}
    (hs : s.blockHeader folded = some (h, s₁)) : ∀ i ∈ h.indent, 1 ≤ i := by
  have hstep : ∀ (h h' : BlockHeader) (c : Char), h.step c = some h' →
      (∀ i ∈ h.indent, 1 ≤ i) → ∀ i ∈ h'.indent, 1 ≤ i := by
    intro h h' c hc hi
    unfold BlockHeader.step at hc
    split_ifs at hc with hkeep hdigit
    · exact Option.some.inj hc ▸ hi
    · obtain rfl := Option.some.inj hc
      intro i h
      obtain rfl := Option.some.inj h
      have hone : '1'.toNat ≤ c.toNat := hdigit.1
      have htoNat : '1'.toNat = '0'.toNat + 1 := rfl
      omega
  obtain ⟨h', hfold, hs⟩ := Option.bind_eq_some_iff.1 hs
  obtain ⟨s', -, hs⟩ := Option.map_eq_some_iff.1 hs
  obtain ⟨rfl, -⟩ := Prod.mk.inj hs
  have hnone : ∀ i ∈ (⟨folded, none, none⟩ : BlockHeader).indent, 1 ≤ i := fun i h => nomatch h
  generalize (⟨folded, none, none⟩ : BlockHeader) = h₀ at hfold hnone
  generalize s.rest.takeWhile _ = marks at hfold
  induction marks generalizing h₀ with
  | nil => exact Option.some.inj hfold ▸ hnone
  | cons c marks ih =>
    obtain ⟨h₁, h₁eq, hfold⟩ := Option.bind_eq_some_iff.1 hfold
    exact ih h₁ (hstep h₀ h₁ c h₁eq hnone) hfold

theorem blockText_extend {h : BlockHeader} (hindent : ∀ i ∈ h.indent, 1 ≤ i) (hY : StartsWord Y)
    (hline : EndsLine s.rest) (hs : s.blockText h = some s₁)
    (hopen : s₁.rest = [] → s₁.column = 0) :
    (s.extend Y).blockText h = some (s₁.extend Y) := by
  obtain ⟨⟨s', breaks, deepest⟩, hbreaks, hs⟩ := Option.bind_eq_some_iff.1 hs
  obtain ⟨⟨s'', text, lead, breaks'⟩, hlines, hs⟩ := Option.bind_eq_some_iff.1 hs
  obtain rfl := Option.some.inj hs
  have hbreaks' := blockBreaks_extend hY hline (m := (s.extend Y).rest.length + 1) (by simp) hbreaks
  have hlines' := blockLines_extend (m := (s'.extend Y).rest.length + 1) ?_ hY
    (hline.suffix (blockBreaks_suffix hbreaks)) (by simp) hlines hopen
  · unfold blockText
    refine (congrArg (Option.bind · _) hbreaks').trans ?_
    exact (congrArg (Option.bind · _) hlines').trans rfl
  · cases hi : h.indent with
    | none => exact Nat.le_max_right ..
    | some i =>
      have hle := hindent i hi
      simp only [Option.map_some, Option.getD_some]
      split <;> omega

theorem block_extend {folded : Bool} (hY : StartsWord Y) (hline : EndsLine s.rest)
    (hr : s.rest = c :: rest) (hc : isBreak c = false) (h : s.block folded = some s₁)
    (hopen : s₁.rest = [] → s₁.column = 0) :
    (s.extend Y).block folded = some (s₁.extend Y) := by
  rw [block_eq] at h ⊢
  obtain ⟨s', hs', h⟩ := Option.bind_eq_some_iff.1 h
  obtain ⟨⟨header, s''⟩, hheader, h⟩ := Option.bind_eq_some_iff.1 h
  have hrest : s'.rest = c :: rest := (rest_of_dropKey hs').trans hr
  have hne : rest ≠ [] := (hr ▸ hline : EndsLine (c :: rest)).ne_nil_of_cons hc
  have hadvance : ({ s' with keyAllowed := true } : Scanner).advance.rest = rest := by
    simp [hrest]
  have hline' : EndsLine ({ s' with keyAllowed := true } : Scanner).advance.rest := by
    rw [hadvance]
    exact hline.suffix (hr ▸ List.suffix_cons ..)
  have hheader' : blockHeader folded (extend Y _) = _ :=
    blockHeader_extend hline' (by rwa [hadvance])
  rw [hheader, ← advance_extend (by simp [hrest])] at hheader'
  rw [dropKey_extend, hs']
  refine (congrArg (Option.bind · _) hheader').trans ?_
  exact blockText_extend (blockHeader_indent hheader) hY
    (hline'.suffix (blockHeader_suffix hheader)) h hopen

/-! ## Other tokens -/

theorem openFlow_extend (hne : s.rest ≠ []) (t : Token) :
    (s.extend Y).openFlow t = (s.openFlow t).map (extend Y) := by
  unfold openFlow
  rw [saveKey_extend]
  refine bind_map_of_mem fun s' hs => ?_
  have hrest : s'.rest ≠ [] := rest_of_saveKey hs ▸ hne
  obtain ⟨c, rest, hr⟩ := List.exists_cons_of_ne_nil hrest
  simp [extend, advance, emit, hr]

theorem closeFlow_extend (hne : s.rest ≠ []) (t : Token) :
    (s.extend Y).closeFlow t = (s.closeFlow t).map (extend Y) := by
  unfold closeFlow
  rw [dropKey_extend]
  refine bind_map_of_mem fun s' hs => ?_
  have hrest : s'.rest ≠ [] := rest_of_dropKey hs ▸ hne
  obtain ⟨c, rest, hr⟩ := List.exists_cons_of_ne_nil hrest
  cases hk : s'.possibleOuter <;> simp [extend, advance, emit, hr, hk]

theorem flowEntry_extend (hne : s.rest ≠ []) :
    (s.extend Y).flowEntry = s.flowEntry.map (extend Y) := by
  unfold flowEntry
  rw [dropKey_extend]
  refine bind_map_of_mem fun s' hs => ?_
  have hrest : s'.rest ≠ [] := rest_of_dropKey hs ▸ hne
  obtain ⟨c, rest, hr⟩ := List.exists_cons_of_ne_nil hrest
  simp [extend, advance, emit, hr]

theorem indentHere_extend (s : Scanner) (t : Token) :
    (s.extend Y).indentHere t = (s.indentHere t).map (extend Y) := by
  unfold indentHere
  simp only [flow_extend, keyAllowed_extend, column_extend, tokens_extend, indentTo_extend,
    apply_ite (Option.map _), Option.map_some, Option.map_none]

/-- A mark that may open a block collection and ends a possible key. -/
theorem indentHere_bind_extend {g : Scanner → Option Scanner} (hr : s.rest = c :: rest) (t : Token)
    (hg : ∀ s', s'.rest = c :: rest → g (s'.extend Y) = (g s').map (extend Y)) :
    ((s.extend Y).indentHere t).bind (fun s => s.dropKey.bind g) =
      ((s.indentHere t).bind fun s => s.dropKey.bind g).map (extend Y) := by
  rw [indentHere_extend]
  refine bind_map_of_mem fun s' hs => ?_
  rw [dropKey_extend]
  exact bind_map_of_mem fun s'' hs' =>
    hg s'' ((rest_of_dropKey hs').trans (rest_of_indentHere hr hs))

theorem blockEntry_extend (hr : s.rest = c :: rest) :
    (s.extend Y).blockEntry = s.blockEntry.map (extend Y) := by
  rw [blockEntry_eq, blockEntry_eq]
  exact indentHere_bind_extend hr _ fun s' hs' => by simp [extend, advance, emit, hs']

theorem explicitKey_extend (hr : s.rest = c :: rest) :
    (s.extend Y).explicitKey = s.explicitKey.map (extend Y) := by
  rw [explicitKey_eq, explicitKey_eq]
  exact indentHere_bind_extend hr _ fun s' hs' => by simp [extend, advance, emit, hs']

theorem value_extend (hr : s.rest = c :: rest) :
    (s.extend Y).value = s.value.map (extend Y) := by
  cases hk : s.possible with
  | some k =>
    rw [value_of_some hk, value_of_some (s := s.extend Y) hk, insert_extend, indentTo_extend]
    have hrest : ((s.insert k.position .key).indentTo k.column k.position
        .blockMappingStart).rest = c :: rest := by simp [hr]
    generalize (s.insert k.position .key).indentTo k.column k.position .blockMappingStart = s'
      at hrest
    simp [extend, advance, emit, hrest]
  | none =>
    rw [value_of_none hk, value_of_none (s := s.extend Y) hk, indentHere_extend]
    refine bind_map_of_mem fun s' hs => ?_
    have hrest : s'.rest = c :: rest := rest_of_indentHere hr hs
    simp [extend, advance, emit, hrest]

theorem name_extend (token : String → Token) (hline : EndsLine s.rest) (hr : s.rest = c :: rest)
    (hc : isBreak c = false) : (s.extend Y).name token = (s.name token).map (extend Y) := by
  unfold name
  rw [saveKey_extend]
  refine bind_map_of_mem fun s' hs => ?_
  have hrest : s'.rest = c :: rest := (rest_of_saveKey hs).trans hr
  have hne : rest ≠ [] := (hr ▸ hline : EndsLine (c :: rest)).ne_nil_of_cons hc
  have hline' : EndsLine rest := hline.suffix (hr ▸ List.suffix_cons ..)
  have hdrop := hline'.drop_takeWhile_ne_nil (p := isNameChar) hne (by decide)
  have htake := hline'.takeWhile_append (p := isNameChar) hne (by decide) Y
  have hle := (List.takeWhile_prefix isNameChar (l := rest)).length_le
  simp only [extend, advance, advanceBy, emit, hrest, htake, List.cons_append,
    List.drop_succ_cons, List.drop_zero, List.drop_append_of_le_length hle,
    endsWord_append hdrop, List.head?_append_of_ne_nil _ hdrop, apply_ite (Option.map _), Option.map_none]
  rfl

theorem tag_extend (hline : EndsLine s.rest) (hne : s.rest ≠ []) :
    (s.extend Y).tag = s.tag.map (extend Y) := by
  unfold tag
  rw [saveKey_extend]
  refine bind_map_of_mem fun s' hs => ?_
  have hrest : s'.rest = s.rest := rest_of_saveKey hs
  have htake := (hrest ▸ hline : EndsLine s'.rest).takeWhile_append
    (p := fun c => !isBlank c && !isBreak c && !(s'.flow != 0 && isFlowMark c)) (hrest ▸ hne) rfl Y
  have hle := (List.takeWhile_prefix (l := s'.rest)
    (fun c => !isBlank c && !isBreak c && !(s'.flow != 0 && isFlowMark c))).length_le
  simp only [extend, advanceBy, emit, htake, List.drop_append_of_le_length hle]
  rfl

theorem documentMark_extend (t : Token) (hmark : s.atDocumentMark = true) :
    (s.extend Y).documentMark t = (s.documentMark t).map (extend Y) := by
  have hlength : 3 ≤ s.rest.length := by
    unfold atDocumentMark at hmark
    have hmark := (Bool.and_eq_true_iff.1 hmark).2
    split at hmark <;> simp_all
  unfold documentMark
  rw [unindentTo_extend, dropKey_extend]
  refine bind_map_of_mem fun s' hs => ?_
  have hrest : s'.rest = s.rest := (rest_of_dropKey hs).trans (rest_unindentTo ..)
  have hle : 3 ≤ s'.rest.length := hrest ▸ hlength
  simp [extend, advanceBy, emit, List.drop_append_of_le_length hle]

theorem directive_extend (hline : EndsLine s.rest) (hne : s.rest ≠ []) :
    (s.extend Y).directive = s.directive.map (extend Y) := by
  unfold directive
  rw [unindentTo_extend, dropKey_extend]
  refine bind_map_of_mem fun s' hs => ?_
  have hrest : s'.rest = s.rest := (rest_of_dropKey hs).trans (rest_unindentTo ..)
  have htake := (hrest ▸ hline : EndsLine s'.rest).takeWhile_append
    (p := fun c => !isBreak c) (hrest ▸ hne) rfl Y
  have hle := (List.takeWhile_prefix (fun c => !isBreak c) (l := s'.rest)).length_le
  simp [extend, advanceBy, emit, htake, List.drop_append_of_le_length hle]

theorem some_of_map {α : Type} {x y : Option α} {φ : α → α} {a : α} (h : y = x.map φ)
    (hx : x = some a) : y = some (φ a) := by
  rw [h, hx]
  rfl

/-- **A token is the same with more text behind it**, if the scanner does not reach the end of the
text with it or is at the margin of a block collection there. -/
theorem token_extend (hY : StartsWord Y) (hline : EndsLine s.rest) (hr : s.rest = c :: rest)
    (hc : isBreak c = false) (h : s.token c rest = some s₁) (hopen : s₁.rest = [] → s₁.IsOpen) :
    (s.extend Y).token c (rest ++ Y) = some (s₁.extend Y) := by
  have hne : s.rest ≠ [] := by simp [hr]
  have hrest : rest ≠ [] := (hr ▸ hline : EndsLine (c :: rest)).ne_nil_of_cons hc
  unfold token at h ⊢
  simp only [column_extend, flow_extend, atDocumentMark_extend hline hne, endsWord_append hrest,
    List.head?_append_of_ne_nil _ hrest]
  refine ite_eq_of_ite_eq h (fun _ => some_of_map (directive_extend hline hne)) fun _ h => ?_
  refine ite_eq_of_ite_eq h (fun hmark => some_of_map (documentMark_extend _ hmark)) fun _ h => ?_
  refine ite_eq_of_ite_eq h (fun _ => some_of_map (openFlow_extend hne _)) fun _ h => ?_
  refine ite_eq_of_ite_eq h (fun _ => some_of_map (openFlow_extend hne _)) fun _ h => ?_
  refine ite_eq_of_ite_eq h (fun _ => some_of_map (closeFlow_extend hne _)) fun _ h => ?_
  refine ite_eq_of_ite_eq h (fun _ => some_of_map (closeFlow_extend hne _)) fun _ h => ?_
  refine ite_eq_of_ite_eq h (fun _ => some_of_map (flowEntry_extend hne)) fun _ h => ?_
  refine ite_eq_of_ite_eq h (fun _ => some_of_map (blockEntry_extend hr)) fun _ h => ?_
  refine ite_eq_of_ite_eq h (fun _ => some_of_map (explicitKey_extend hr)) fun _ h => ?_
  refine ite_eq_of_ite_eq h (fun _ => some_of_map (value_extend hr)) fun _ h => ?_
  refine ite_eq_of_ite_eq h (fun _ => some_of_map (name_extend _ hline hr hc)) fun _ h => ?_
  refine ite_eq_of_ite_eq h (fun _ => some_of_map (name_extend _ hline hr hc)) fun _ h => ?_
  refine ite_eq_of_ite_eq h (fun _ => some_of_map (tag_extend hline hne)) fun _ h => ?_
  refine ite_eq_of_ite_eq h (fun _ h => ?_) fun _ h => ?_
  · exact block_extend hY hline hr hc h fun hnil => (hopen hnil).column
  refine ite_eq_of_ite_eq h (fun _ h => ?_) fun _ h => ?_
  · exact block_extend hY hline hr hc h fun hnil => (hopen hnil).column
  refine ite_eq_of_ite_eq h (fun _ => quoted_extend hline hne) fun _ h => ?_
  exact ite_eq_of_ite_eq h (fun _ h => plain_extend hY hline hne h hopen) fun _ => nofun

/-! ## Scanning on -/

theorem skip_extend (hY : StartsWord Y) (hline : EndsLine s.rest) :
    (s.extend Y).skip = s.skip.map (extend Y) := by
  unfold skip
  cases hr : s.rest with
  | nil =>
    obtain ⟨c, rest, rfl, -, hbreak, hhash, hspace, htab⟩ := hY.cases
    simp [hr, hbreak, hhash, hspace, htab]
  | cons c rest =>
    have hne : s.rest ≠ [] := by simp [hr]
    simp only [rest_extend, hr, List.cons_append]
    rw [advance_extend hne, advanceLine_extend hline hne, ← List.cons_append,
      (hr ▸ hline : EndsLine (c :: rest)).takeWhile_append (by simp) rfl,
      advanceBy_extend (hr ▸ (List.takeWhile_prefix _).length_le)]
    have hallow : ∀ s : Scanner,
        (if (s.extend Y).flow = 0 then { s.extend Y with keyAllowed := true }
          else s.extend Y : Scanner) =
        (if s.flow = 0 then { s with keyAllowed := true } else s : Scanner).extend Y := fun s => by
      rw [apply_ite (extend Y)]
      rfl
    simp only [apply_ite (Option.map _), Option.map_some, Option.map_none, hallow]
    rfl

theorem skipToToken_extend (hY : StartsWord Y) (hline : EndsLine s.rest) (hn : s.rest.length < n)
    (hm : (s.rest ++ Y).length < m) :
    skipToToken m (s.extend Y) = (skipToToken n s).extend Y := by
  induction n generalizing s m with
  | zero => omega
  | succ n ih =>
    obtain ⟨m, rfl⟩ : ∃ k, m = k + 1 := ⟨m - 1, by omega⟩
    rw [skipToToken_succ, skipToToken_succ, skip_extend hY hline]
    cases hs : s.skip with
    | none => rfl
    | some s' =>
      have hlt := length_skip_lt hs
      rw [List.length_append] at hm
      exact ih (hline.suffix ((skip_suffix hs).trans (List.drop_suffix ..))) (by omega)
        (by rw [List.length_append]; omega)

theorem settle_extend (hY : StartsWord Y) (hline : EndsLine s.rest) :
    (s.extend Y).settle = s.settle.map (extend Y) := by
  unfold settle
  rw [skipToToken_extend hY hline (Nat.lt_succ_self _) (by simp), dropStaleKey_extend,
    Option.map_map, Option.map_map]
  exact congrArg (Option.map · _) (funext fun s => unindentTo_extend s _)

/-- At the end of the text there is nothing more to be done for an open collection. -/
theorem IsOpen.of_stop (hr : s.rest = []) (h : s.stop = some s₁) (hopen : s₁.IsOpen) :
    s.IsOpen := by
  have hskip : skipToToken (s.rest.length + 1) s = s := by
    rw [skipToToken_succ, show s.skip = none by simp [skip, hr]]
    rfl
  rw [stop_eq] at h
  obtain ⟨s', hs', h⟩ := Option.bind_eq_some_iff.1 h
  have hrest : s'.rest = [] := List.suffix_nil.1 (hr ▸ settle_suffix hs')
  rw [halt_of_nil hrest] at h
  obtain rfl := Option.some.inj h
  obtain ⟨s'', hs'', rfl⟩ := Option.map_eq_some_iff.1 hs'
  rw [hskip] at hs''
  have hfields : s''.column = s.column ∧ s''.flow = s.flow ∧ s''.indent = s.indent := by
    rcases of_dropStaleKey hs'' with rfl | rfl <;> exact ⟨rfl, rfl, rfl⟩
  have hcolumn := column_unindentTo s'' s''.column
  obtain ⟨hcolumn', hflow, hindent⟩ := hopen
  rw [hcolumn.1, hfields.1] at hcolumn'
  rw [hcolumn.2, hfields.2.1] at hflow
  refine ⟨hcolumn', hflow, ?_⟩
  by_contra hlt
  rw [unindentTo_of_le (by rw [hfields.1, hfields.2.2]; omega), hfields.2.2] at hindent
  exact hlt hindent

/-- **A text that stops at the margin goes on there.** -/
theorem stop_extend (hY : StartsWord Y) (hline : EndsLine s.rest) (h : s.stop = some s₁)
    (hopen : s₁.IsOpen) : (s.extend Y).stop = (s₁.extend Y).halt := by
  induction s using tokenInduction with
  | h s ih =>
    rw [stop_eq] at h
    obtain ⟨s', hs', h⟩ := Option.bind_eq_some_iff.1 h
    have hline' := hline.suffix (settle_suffix hs')
    rw [stop_eq, settle_extend hY hline, hs', Option.map_some, Option.bind_some]
    cases hr : s'.rest with
    | nil =>
      rw [halt_of_nil hr] at h
      exact Option.some.inj h ▸ rfl
    | cons c rest =>
      rw [halt_of_cons hr] at h
      obtain ⟨s'', hs'', h⟩ := Option.bind_eq_some_iff.1 h
      have htoken := token_extend hY hline' hr (isBreak_of_settle hs' hr) hs'' fun hnil =>
        IsOpen.of_stop hnil h hopen
      have hr' : (s'.extend Y).rest = c :: (rest ++ Y) := by rw [rest_extend, hr, List.cons_append]
      rw [halt_of_cons hr', htoken, Option.bind_some]
      refine ih hs' hr hs'' ?_ h
      exact hline'.suffix ((token_suffix hr hs'').trans (hr ▸ List.suffix_cons ..))

end Scanner

end Gazetteer.Yaml
