import Gazetteer.Proofs.Pattern.Spans

/-!
# The occurrences of a pattern

The matches of a pattern that never matches the empty text are its successive leftmost occurrences:
each is the match at the first place, not before the end of the one before it, at which the pattern
can match anything, and behind the last one there is no such place (`Pattern.Successive`). Only the
list of matches that `Pattern.occurrences` gives has this property (`successive_iff`). So matches
come in text order and do not overlap, neither in characters nor in bytes.
-/

namespace Gazetteer.Pattern

variable {p : Pattern} {a b w text : List Char} {m m' : Match} {ms ms' : List Match}
  {pos skip n : Nat}

/-! ## Single matches -/

/-- The place between two pieces of text. -/
def Cursor.between (a b : List Char) : Cursor :=
  ⟨a.reverse, a.length, b, []⟩

/-- A match stands in a text: what it says about its position is right, the pattern can match its
text there, and it is the match that counts. -/
def Match.StandsIn (m : Match) (p : Pattern) (text : List Char) : Prop :=
  ∃ a b, text = a ++ (m.text ++ b) ∧ m.start = a.length ∧ m.byteStart = Text.utf8Length a ∧
    p.Spans a m.text b ∧ p.matchAt (.between a (m.text ++ b)) = some m

/-- The pattern can match something at a place, given by its number of characters before. -/
def OccursAt (p : Pattern) (text : List Char) (n : Nat) : Prop :=
  ∃ a w b, text = a ++ (w ++ b) ∧ a.length = n ∧ p.Spans a w b

theorem matchAt_eq (p : Pattern) (c : Cursor) :
    p.matchAt c = ((p.ways { c with parts := [] }).head?).map fun c' =>
      { start := c.pos
        byteStart := Text.utf8Length c.before
        text := c'.slice c.pos c'.pos
        groups := c'.parts.map fun part => (part.name, c'.slice part.start part.stop) } := by
  unfold matchAt
  rw [run_eq_findSome?]
  cases p.ways { c with parts := [] } <;> rfl

/-- The text that was gone over is the one between the two places. -/
theorem Cursor.Over.slice_eq {c c' : Cursor} (h : c.Over w c') : c'.slice c.pos c'.pos = w := by
  have hb : c'.before = w.reverse ++ c.before := by
    rw [← List.reverse_reverse c'.before, h.before, List.reverse_append, List.reverse_reverse]
  unfold Cursor.slice
  rw [Nat.sub_self, List.drop_zero, h.pos, Nat.add_sub_cancel_left, hb,
    List.take_left' (List.length_reverse), List.reverse_reverse]

theorem standsIn_of_matchAt (h : p.matchAt (.between a text) = some m) :
    m.start = a.length ∧ m.StandsIn p (a ++ text) := by
  have h' := h
  rw [matchAt_eq] at h'
  obtain ⟨c', hc', rfl⟩ := Option.map_eq_some_iff.1 h'
  obtain ⟨w, ho, hw⟩ := spans_of_mem_ways (List.mem_of_mem_head? hc')
  have hslice : c'.slice (Cursor.between a text).pos c'.pos = w := ho.slice_eq
  have hrest : text = c'.slice (Cursor.between a text).pos c'.pos ++ c'.rest := by
    rw [hslice]
    exact ho.rest
  refine ⟨rfl, a, c'.rest, congrArg (a ++ ·) hrest, rfl, Text.utf8Length_reverse a, ?_, ?_⟩
  · rw [hslice]
    simpa only [Cursor.between, List.reverse_reverse] using hw
  · simp only
    rw [← hrest]
    exact h

/-- There is a match at a place if the pattern can match anything there. -/
theorem exists_matchAt_iff :
    (∃ m, p.matchAt (.between a text) = some m) ↔ p.OccursAt (a ++ text) a.length := by
  constructor
  · rintro ⟨m, hm⟩
    obtain ⟨hstart, a', b, heq, hlen, -, hw, -⟩ := standsIn_of_matchAt hm
    exact ⟨a', m.text, b, heq, hlen.symm.trans hstart, hw⟩
  · rintro ⟨a', w, b, heq, hlen, hw⟩
    obtain ⟨rfl, rfl⟩ := List.append_inj heq hlen.symm
    obtain ⟨c', hc', -⟩ :=
      exists_mem_ways (c := .between a (w ++ b)) hw (List.reverse_reverse a) rfl
    rw [matchAt_eq]
    cases hways : p.ways (.between a (w ++ b)) with
    | nil =>
      rw [hways] at hc'
      cases hc'
    | cons c cs =>
      have hhead : (p.ways { Cursor.between a (w ++ b) with parts := [] }).head? = some c := by
        rw [show ({ Cursor.between a (w ++ b) with parts := [] } : Cursor) = .between a (w ++ b)
          from rfl, hways]
        rfl
      rw [hhead]
      exact ⟨_, rfl⟩

/-- A pattern matches in a text if it can match a piece of it. -/
theorem isMatch_eq_true_iff : p.isMatch text = true ↔
    ∃ a w b, text = a ++ (w ++ b) ∧ p.Spans a w b := by
  simp only [isMatch, List.any_eq_true, List.mem_range, Option.isSome_iff_exists]
  have hplace : ∀ n < text.length + 1,
      ((∃ m, p.matchAt ⟨(text.take n).reverse, n, text.drop n, []⟩ = some m) ↔
        p.OccursAt text n) := by
    intro n hn
    have hlength : (text.take n).length = n := List.length_take_of_le (by omega)
    have h : (∃ m, p.matchAt (.between (text.take n) (text.drop n)) = some m) ↔
        p.OccursAt (text.take n ++ text.drop n) (text.take n).length := exists_matchAt_iff
    rwa [List.take_append_drop, Cursor.between, hlength] at h
  constructor
  · rintro ⟨n, hn, hm⟩
    obtain ⟨a, w, b, heq, -, hw⟩ := (hplace n hn).1 hm
    exact ⟨a, w, b, heq, hw⟩
  · rintro ⟨a, w, b, rfl, hw⟩
    have hn : a.length < (a ++ (w ++ b)).length + 1 := by
      rw [List.length_append]
      omega
    exact ⟨a.length, hn, (hplace _ hn).2 ⟨a, w, b, rfl, rfl, hw⟩⟩

namespace Match.StandsIn

theorem occursAt (h : m.StandsIn p text) : p.OccursAt text m.start := by
  obtain ⟨a, b, heq, hstart, -, hw, -⟩ := h
  exact ⟨a, m.text, b, heq, hstart.symm, hw⟩

/-- At one place stands one match. -/
theorem unique (h : m.StandsIn p text) (h' : m'.StandsIn p text) (hs : m.start = m'.start) :
    m = m' := by
  obtain ⟨a, b, heq, hstart, -, -, hm⟩ := h
  obtain ⟨a', b', heq', hstart', -, -, hm'⟩ := h'
  obtain ⟨rfl, hrest⟩ := List.append_inj (heq.symm.trans heq') (by omega)
  rw [hrest, hm', Option.some.injEq] at hm
  exact hm.symm

/-- The text of a match is what stands in the text at its bytes. -/
theorem sliceBytes_eq (h : m.StandsIn p text) :
    Text.sliceBytes text m.byteStart (m.byteStart + m.byteLength) = some m.text := by
  obtain ⟨a, b, rfl, -, hbyte, -, -⟩ := h
  rw [hbyte, Match.byteLength, Text.sliceBytes_append]

/-- The bytes before a match are the characters before it. -/
theorem splitBytes_eq (h : m.StandsIn p text) :
    Text.splitBytes text m.byteStart = some (text.take m.start, text.drop m.start) := by
  obtain ⟨a, b, rfl, hstart, hbyte, -, -⟩ := h
  rw [hbyte, Text.splitBytes_append, hstart, List.take_left, List.drop_left]

theorem length_take_start (h : m.StandsIn p text) : (text.take m.start).length = m.start := by
  obtain ⟨a, b, rfl, hstart, -, -, -⟩ := h
  rw [hstart, List.take_left]

theorem byteStart_eq (h : m.StandsIn p text) :
    m.byteStart = Text.utf8Length (text.take m.start) := by
  obtain ⟨a, b, rfl, hstart, hbyte, -, -⟩ := h
  rw [hbyte, hstart, List.take_left]

/-- A match behind some text is behind it in bytes too. -/
theorem utf8Length_le (h : m.StandsIn p (a ++ b)) (hle : a.length ≤ m.start) :
    Text.utf8Length a ≤ m.byteStart := by
  rw [h.byteStart_eq, ← Nat.add_sub_cancel' hle, List.take_length_add_append,
    Text.utf8Length_append]
  exact Nat.le_add_right _ _

/-- Matches that do not overlap in characters do not overlap in bytes. -/
theorem byteEnd_le (h : m.StandsIn p text) (h' : m'.StandsIn p text)
    (hle : m.start + m.text.length ≤ m'.start) :
    m.byteStart + m.byteLength ≤ m'.byteStart := by
  obtain ⟨a, b, heq, hstart, hbyte, -, -⟩ := h
  have hprefix : text.take (m.start + m.text.length) = a ++ m.text := by
    rw [heq, hstart, ← List.append_assoc, ← List.length_append, List.take_left]
  have htake : text.take m'.start =
      (a ++ m.text) ++ (text.drop (m.start + m.text.length)).take
        (m'.start - (m.start + m.text.length)) := by
    rw [← hprefix, ← List.take_add, Nat.add_sub_cancel' hle]
  rw [h'.byteStart_eq, htake, Text.utf8Length_append, Text.utf8Length_append, hbyte,
    Match.byteLength]
  exact Nat.le_add_right _ _

end Match.StandsIn

/-! ## Successive matches -/

/-- Matches follow one another from a place on, each the leftmost one that there is behind the one
before it, and none is left out. -/
inductive Successive (p : Pattern) (text : List Char) : Nat → List Match → Prop
  | done {pos : Nat} (h : ∀ n, pos ≤ n → ¬p.OccursAt text n) : Successive p text pos []
  | next {pos : Nat} {m : Match} {ms : List Match} (hm : m.StandsIn p text) (hpos : pos ≤ m.start)
      (hleft : ∀ n, pos ≤ n → n < m.start → ¬p.OccursAt text n)
      (hms : Successive p text (m.start + m.text.length) ms) : Successive p text pos (m :: ms)

namespace Successive

theorem standsIn (h : Successive p text pos ms) : ∀ m ∈ ms, m.StandsIn p text := by
  induction h with
  | done => exact fun m hm => absurd hm List.not_mem_nil
  | next hm _ _ _ ih => exact List.forall_mem_cons.2 ⟨hm, ih⟩

theorem le_start (h : Successive p text pos ms) : ∀ m ∈ ms, pos ≤ m.start := by
  induction h with
  | done => exact fun m hm => absurd hm List.not_mem_nil
  | next _ hpos _ _ ih => exact List.forall_mem_cons.2 ⟨hpos, fun m' hm' => by
      have := ih m' hm'
      omega⟩

/-- Successive matches come in text order and do not overlap. -/
theorem pairwise (h : Successive p text pos ms) :
    ms.Pairwise fun m m' => m.start + m.text.length ≤ m'.start := by
  induction h with
  | done => exact List.Pairwise.nil
  | next _ _ _ hms ih => exact List.pairwise_cons.2 ⟨fun m' hm' => hms.le_start m' hm', ih⟩

theorem pairwise_bytes (h : Successive p text pos ms) :
    ms.Pairwise fun m m' => m.byteStart + m.byteLength ≤ m'.byteStart := by
  have hstands := h.standsIn
  refine h.pairwise.imp_of_mem fun {m m'} hm hm' hle => ?_
  exact (hstands m hm).byteEnd_le (hstands m' hm') hle

theorem end_le_of_start_lt (h : Successive p text pos ms) (hm : m ∈ ms) (hm' : m' ∈ ms)
    (hlt : m.start < m'.start) : m.start + m.text.length ≤ m'.start := by
  induction h with
  | done => cases hm
  | next _ _ _ hms ih =>
    rcases List.mem_cons.1 hm with rfl | hin <;> rcases List.mem_cons.1 hm' with rfl | hin'
    · exact absurd hlt (Nat.lt_irrefl _)
    · exact hms.le_start m' hin'
    · have := hms.le_start m hin
      omega
    · exact ih hin hin'

/-- A match that stands in the text is one of them or begins inside one of them. -/
theorem mem_or_inside (h : Successive p text pos ms) (hm : m.StandsIn p text)
    (hpos : pos ≤ m.start) :
    m ∈ ms ∨ ∃ m' ∈ ms, m'.start < m.start ∧ m.start < m'.start + m'.text.length := by
  induction h with
  | done hno => exact absurd hm.occursAt (hno _ hpos)
  | @next pos m₁ ms hm₁ hle hleft hms ih =>
    rcases Nat.lt_trichotomy m.start m₁.start with hlt | heq | hlt
    · exact absurd hm.occursAt (hleft _ hpos hlt)
    · rw [hm.unique hm₁ heq]
      exact Or.inl List.mem_cons_self
    · by_cases hend : m.start < m₁.start + m₁.text.length
      · exact Or.inr ⟨m₁, List.mem_cons_self, hlt, hend⟩
      · rcases ih (Nat.le_of_not_lt hend) with hin | ⟨m', hm', hinside⟩
        · exact Or.inl (List.mem_cons_of_mem _ hin)
        · exact Or.inr ⟨m', List.mem_cons_of_mem _ hm', hinside⟩

/-- If nothing can be matched at a place, what follows from the next one on follows from it on. -/
theorem of_succ (h : Successive p text (pos + 1) ms) (hno : ¬p.OccursAt text pos) :
    Successive p text pos ms := by
  have hle : ∀ {n}, pos ≤ n → n ≠ pos → pos + 1 ≤ n := fun h h' => by omega
  cases h with
  | done h =>
    refine .done fun n hn hat => ?_
    by_cases he : n = pos
    · exact hno (he ▸ hat)
    · exact h n (hle hn he) hat
  | next hm hpos hleft hms =>
    refine .next hm (Nat.le_of_succ_le hpos) (fun n hn hlt hat => ?_) hms
    by_cases he : n = pos
    · exact hno (he ▸ hat)
    · exact hleft n (hle hn he) hlt hat

/-- What follows from a place on is known. -/
theorem unique (h : Successive p text pos ms) (h' : Successive p text pos ms') : ms = ms' := by
  induction h generalizing ms' with
  | done hno =>
    cases h' with
    | done => rfl
    | next hm hpos _ _ => exact absurd hm.occursAt (hno _ hpos)
  | @next pos m ms hm hpos hleft _ ih =>
    cases h' with
    | done hno => exact absurd hm.occursAt (hno _ hpos)
    | @next _ m' ms' hm' hpos' hleft' hms' =>
      have hstart : m.start = m'.start := by
        rcases Nat.lt_trichotomy m.start m'.start with hlt | he | hlt
        · exact absurd hm.occursAt (hleft' _ hpos hlt)
        · exact he
        · exact absurd hm'.occursAt (hleft _ hpos' hlt)
      obtain rfl := hm.unique hm' hstart
      rw [ih hms']

end Successive

/-- The matches from a place on, where some characters belong to the match before. -/
theorem successive_occurrencesFrom (hp : p.mayBeEmpty = false) (rest : List Char)
    (hskip : skip ≤ rest.length) :
    Successive p (a ++ rest) (a.length + skip)
      (occurrencesFrom p a.reverse a.length skip rest) := by
  induction rest generalizing a skip with
  | nil =>
    refine .done ?_
    rintro n hn ⟨a', w, b, heq, hlen, hw⟩
    -- Behind the end there is no text for the match.
    have hpos := List.length_pos_iff.2 (hw.ne_nil hp)
    have := congrArg List.length heq
    simp only [List.length_append, List.length_nil] at this
    omega
  | cons x rest ih =>
    have hmove : a ++ x :: rest = (a ++ [x]) ++ rest := by simp
    have hrev : x :: a.reverse = (a ++ [x]).reverse := by simp
    have hlen : a.length + 1 = (a ++ [x]).length := by simp
    cases skip with
    | succ skip =>
      simp only [occurrencesFrom]
      rw [hmove, hrev, show a.length + (skip + 1) = (a ++ [x]).length + skip by rw [← hlen]; omega,
        hlen]
      exact ih (Nat.le_of_succ_le_succ hskip)
    | zero =>
      simp only [occurrencesFrom, Nat.add_zero]
      cases hat : p.matchAt ⟨a.reverse, a.length, x :: rest, []⟩ with
      | some m =>
        obtain ⟨hstart, hstands⟩ := standsIn_of_matchAt hat
        refine .next hstands (Nat.le_of_eq hstart.symm) (fun n hn hlt => by omega) ?_
        obtain ⟨a', b, heq, hlen', -, hw, -⟩ := hstands
        have hpos := List.length_pos_iff.2 (hw.ne_nil hp)
        have hall := congrArg List.length heq
        simp only [List.length_append, List.length_cons] at hall
        rw [hmove, hrev, hlen,
          show m.start + m.text.length = (a ++ [x]).length + (m.text.length - 1) by
            rw [← hlen]; omega]
        exact ih (by omega)
      | none =>
        have hno : ¬p.OccursAt (a ++ x :: rest) a.length := fun hocc => by
          obtain ⟨m, hm⟩ := exists_matchAt_iff.2 hocc
          rw [show p.matchAt (.between a (x :: rest)) = none from hat] at hm
          cases hm
        refine Successive.of_succ ?_ hno
        rw [hmove, hrev, hlen]
        exact ih (Nat.zero_le _)

theorem successive_occurrences (hp : p.mayBeEmpty = false) (text : List Char) :
    Successive p text 0 (p.occurrences text) :=
  successive_occurrencesFrom (a := []) hp text (Nat.zero_le _)

/-- **Matches are the successive leftmost occurrences.** A list of matches is the one that
`occurrences` gives if and only if each of them is the leftmost one behind the one before it and
none is left out, for every pattern that never matches the empty text. -/
theorem successive_iff (hp : p.mayBeEmpty = false) :
    Successive p text 0 ms ↔ ms = p.occurrences text := by
  constructor
  · exact fun h => h.unique (successive_occurrences hp text)
  · rintro rfl
    exact successive_occurrences hp text

end Gazetteer.Pattern
