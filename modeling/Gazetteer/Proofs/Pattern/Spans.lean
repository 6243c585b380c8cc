import Gazetteer.Pattern.Basic
import Mathlib.Data.List.Basic

/-!
# What a pattern matches

Whether a pattern can match a piece of text depends on the piece and on what stands before and
behind it (`Pattern.Spans`). The search for a match goes back and forth, but all it does is to look
through a list of places, the ways to match the pattern in the order in which they count
(`Pattern.ways`), for the first one with which the rest can be matched too (`run_eq_findSome?`).
These places are exactly those behind the pieces that the pattern can match (`spans_of_mem_ways` and
`exists_mem_ways`), so a match is found wherever there is one.
-/

namespace Gazetteer

/-- A place is reached from another one by going over a piece of text. -/
structure Pattern.Cursor.Over (c : Cursor) (w : List Char) (c' : Cursor) : Prop where
  before : c'.before.reverse = c.before.reverse ++ w
  pos : c'.pos = c.pos + w.length
  rest : c.rest = w ++ c'.rest

namespace Pattern

variable {p q : Pattern} {a b v w text : List Char} {c c' c₁ : Cursor} {m : Match}
  {test : Char → Bool}

theorem Cursor.Over.refl (c : Cursor) : c.Over [] c where
  before := by simp
  pos := rfl
  rest := rfl

theorem Cursor.Over.trans (h : c.Over v c₁) (h' : c₁.Over w c') : c.Over (v ++ w) c' where
  before := by rw [h'.before, h.before, List.append_assoc]
  pos := by
    have := h.pos
    have := h'.pos
    simp only [List.length_append]
    omega
  rest := by rw [h.rest, h'.rest, List.append_assoc]

/-- The pieces of text that a pattern can match between what is before and what is behind. Every
round of a repetition has to move on. -/
inductive Spans : Pattern → List Char → List Char → List Char → Prop
  | empty {a b : List Char} : Spans .empty a [] b
  | char {test : Char → Bool} {x : Char} {a b : List Char} (h : test x = true) :
      Spans (.char test) a [x] b
  | seq {p q : Pattern} {a v w b : List Char} (hp : Spans p a v (w ++ b))
      (hq : Spans q (a ++ v) w b) : Spans (.seq p q) a (v ++ w) b
  | left {p q : Pattern} {a w b : List Char} (h : Spans p a w b) : Spans (.alt p q) a w b
  | right {p q : Pattern} {a w b : List Char} (h : Spans q a w b) : Spans (.alt p q) a w b
  | stop {lazily : Bool} {p : Pattern} {a b : List Char} : Spans (.star lazily p) a [] b
  | round {lazily : Bool} {p : Pattern} {a v w b : List Char} (hv : v ≠ [])
      (hp : Spans p a v (w ++ b)) (hs : Spans (.star lazily p) (a ++ v) w b) :
      Spans (.star lazily p) a (v ++ w) b
  | group {name : String} {p : Pattern} {a w b : List Char} (h : Spans p a w b) :
      Spans (.group name p) a w b
  | atStart {b : List Char} : Spans .atStart [] [] b
  | atEnd {a : List Char} : Spans .atEnd a [] []

/-! ## The ways to match -/

/-- The places that at most some number of rounds lead to, in the order in which they count. -/
def rounds (lazily : Bool) (body : Cursor → List Cursor) : Nat → Cursor → List Cursor
  | 0, c => [c]
  | n + 1, c =>
    let more := (body c).flatMap fun c' => if c.pos < c'.pos then rounds lazily body n c' else []
    if lazily then c :: more else more ++ [c]

/-- The places behind the ways to match a pattern here, in the order in which they count. -/
def ways : Pattern → Cursor → List Cursor
  | .empty, c => [c]
  | .char test, c =>
    match c.rest with
    | x :: rest =>
      if test x then [{ c with before := x :: c.before, pos := c.pos + 1, rest }] else []
    | [] => []
  | .seq p q, c => (ways p c).flatMap (ways q)
  | .alt p q, c => ways p c ++ ways q c
  | .star lazily p, c => rounds lazily (ways p) c.rest.length c
  | .group name p, c =>
    (ways p c).map fun c' => { c' with parts := ⟨name, c.pos, c'.pos⟩ :: c'.parts }
  | .atStart, c => if c.before.isEmpty then [c] else []
  | .atEnd, c => if c.rest.isEmpty then [c] else []

theorem findSome?_flatMap {α β γ : Type} (f : α → List β) (k : β → Option γ) (as : List α) :
    (as.flatMap f).findSome? k = as.findSome? fun a => (f a).findSome? k := by
  induction as with
  | nil => rfl
  | cons a as ih =>
    rw [List.flatMap_cons, List.findSome?_append, ih, List.findSome?_cons]
    cases (f a).findSome? k <;> rfl

section Rounds

variable {body : Cursor → Continuation → Option Cursor} {ways : Cursor → List Cursor}
  (h : ∀ c k, body c k = (ways c).findSome? k)

include h

theorem repeatGreedy_eq_findSome? (n : Nat) (c : Cursor) (k : Continuation) :
    repeatGreedy body n c k = (rounds false ways n c).findSome? k := by
  induction n generalizing c with
  | zero => simp [repeatGreedy, rounds]
  | succ n ih =>
    simp only [repeatGreedy, rounds, Bool.false_eq_true, if_false, List.findSome?_append,
      List.findSome?_singleton, findSome?_flatMap, h]
    have hmore : ∀ c', (if c.pos < c'.pos then repeatGreedy body n c' k else none) =
        (if c.pos < c'.pos then rounds false ways n c' else []).findSome? k := by
      intro c'
      split
      · exact ih c'
      · rfl
    simp only [hmore]
    split
    · rename_i r hr
      rw [hr, Option.some_or]
    · rename_i hr
      rw [hr, Option.none_or]

theorem repeatLazy_eq_findSome? (n : Nat) (c : Cursor) (k : Continuation) :
    repeatLazy body n c k = (rounds true ways n c).findSome? k := by
  induction n generalizing c with
  | zero => simp [repeatLazy, rounds]
  | succ n ih =>
    simp only [repeatLazy, rounds, if_true, List.findSome?_cons, findSome?_flatMap, h]
    have hmore : ∀ c', (if c.pos < c'.pos then repeatLazy body n c' k else none) =
        (if c.pos < c'.pos then rounds true ways n c' else []).findSome? k := by
      intro c'
      split
      · exact ih c'
      · rfl
    simp only [hmore]
    cases k c <;> rfl

end Rounds

/-- Matching takes the first of the ways with which the rest succeeds. -/
theorem run_eq_findSome? (p : Pattern) (c : Cursor) (k : Continuation) :
    run p c k = (p.ways c).findSome? k := by
  induction p generalizing c k with
  | empty => simp [run, ways]
  | char test =>
    cases hr : c.rest with
    | nil => simp only [run, ways, hr, List.findSome?_nil]
    | cons x rest =>
      simp only [run, ways, hr]
      split <;> simp
  | seq p q ihp ihq =>
    simp only [run, ways, ihp, findSome?_flatMap]
    simp only [ihq]
  | alt p q ihp ihq =>
    simp only [run, ways, ihp, ihq, List.findSome?_append]
    split
    · rename_i r hr
      rw [hr, Option.some_or]
    · rename_i hr
      rw [hr, Option.none_or]
  | star lazily p ih =>
    cases lazily with
    | false => exact repeatGreedy_eq_findSome? ih _ c k
    | true => exact repeatLazy_eq_findSome? ih _ c k
  | group name p ih =>
    simp only [run, ways, ih, List.findSome?_map]
    rfl
  | atStart =>
    simp only [run, ways]
    split <;> simp
  | atEnd =>
    simp only [run, ways]
    split <;> simp

/-! ## Single ways -/

theorem mem_ways_char_iff :
    c' ∈ (Pattern.char test).ways c ↔ ∃ x rest, c.rest = x :: rest ∧ test x = true ∧
      c' = { c with before := x :: c.before, pos := c.pos + 1, rest } := by
  unfold ways
  cases hr : c.rest with
  | nil => simp
  | cons x rest => cases hx : test x <;> simp [hx]

theorem mem_ways_atStart_iff : c' ∈ Pattern.atStart.ways c ↔ c.before = [] ∧ c' = c := by
  unfold ways
  cases c.before <;> simp

theorem mem_ways_atEnd_iff : c' ∈ Pattern.atEnd.ways c ↔ c.rest = [] ∧ c' = c := by
  unfold ways
  cases c.rest <;> simp

theorem mem_rounds_zero_iff {lazily : Bool} {body : Cursor → List Cursor} :
    c' ∈ rounds lazily body 0 c ↔ c' = c :=
  List.mem_singleton

theorem mem_rounds_succ_iff {lazily : Bool} {body : Cursor → List Cursor} {n : Nat} :
    c' ∈ rounds lazily body (n + 1) c ↔
      c' = c ∨ ∃ c₁ ∈ body c, c.pos < c₁.pos ∧ c' ∈ rounds lazily body n c₁ := by
  have hmore : c' ∈ ((body c).flatMap fun c₁ =>
        if c.pos < c₁.pos then rounds lazily body n c₁ else []) ↔
      ∃ c₁ ∈ body c, c.pos < c₁.pos ∧ c' ∈ rounds lazily body n c₁ := by
    rw [List.mem_flatMap]
    refine exists_congr fun c₁ => and_congr_right fun _ => ?_
    by_cases hlt : c.pos < c₁.pos
    · simp only [hlt, if_true, true_and]
    · simp only [hlt, if_false, List.not_mem_nil, false_and]
  cases lazily with
  | false => simp only [rounds, Bool.false_eq_true, if_false, List.mem_append, hmore,
      List.mem_singleton, or_comm]
  | true => simp only [rounds, if_true, List.mem_cons, hmore]

/-- More rounds lead to all places that fewer lead to. -/
theorem mem_rounds_mono {lazily : Bool} {body : Cursor → List Cursor} {n k : Nat} (hnk : n ≤ k)
    (h : c' ∈ rounds lazily body n c) : c' ∈ rounds lazily body k c := by
  induction n generalizing c k with
  | zero =>
    rw [mem_rounds_zero_iff.1 h]
    cases k with
    | zero => exact mem_rounds_zero_iff.2 rfl
    | succ k => exact mem_rounds_succ_iff.2 (Or.inl rfl)
  | succ n ih =>
    obtain ⟨k, rfl⟩ : ∃ k', k = k' + 1 := ⟨k - 1, by omega⟩
    rcases mem_rounds_succ_iff.1 h with rfl | ⟨c₁, hc₁, hlt, hrest⟩
    · exact mem_rounds_succ_iff.2 (Or.inl rfl)
    · exact mem_rounds_succ_iff.2 (Or.inr ⟨c₁, hc₁, hlt, ih (by omega) hrest⟩)

/-- What holds of no round, and of a round and then some more, holds of a whole repetition. -/
theorem mem_ways_star_induction {lazily : Bool} {R : Cursor → Cursor → Prop}
    (stop : ∀ c, R c c)
    (round : ∀ {c c₁ c'}, c₁ ∈ p.ways c → c.pos < c₁.pos → R c₁ c' → R c c')
    (h : c' ∈ (Pattern.star lazily p).ways c) : R c c' := by
  unfold ways at h
  generalize c.rest.length = n at h
  induction n generalizing c with
  | zero => exact mem_rounds_zero_iff.1 h ▸ stop c
  | succ n ih =>
    rcases mem_rounds_succ_iff.1 h with rfl | ⟨c₁, hc₁, hlt, hrest⟩
    · exact stop c'
    · exact round hc₁ hlt (ih hrest)

/-! ## Ways and pieces of text -/

theorem Spans.seq_over (hp : p.Spans c.before.reverse v c₁.rest) (ho : c.Over v c₁)
    (hq : q.Spans c₁.before.reverse w c'.rest) (ho' : c₁.Over w c') :
    (Pattern.seq p q).Spans c.before.reverse (v ++ w) c'.rest := by
  rw [ho'.rest] at hp
  rw [ho.before] at hq
  exact .seq hp hq

theorem Spans.round_over {lazily : Bool} (hp : p.Spans c.before.reverse v c₁.rest)
    (ho : c.Over v c₁) (hlt : c.pos < c₁.pos)
    (hs : (Pattern.star lazily p).Spans c₁.before.reverse w c'.rest) (ho' : c₁.Over w c') :
    (Pattern.star lazily p).Spans c.before.reverse (v ++ w) c'.rest := by
  have hv : v ≠ [] := by
    rintro rfl
    have := ho.pos
    simp only [List.length_nil] at this
    omega
  rw [ho'.rest] at hp
  rw [ho.before] at hs
  exact .round hv hp hs

/-- Every way leads over a piece of text that the pattern can match. -/
theorem spans_of_mem_ways (h : c' ∈ p.ways c) :
    ∃ w, c.Over w c' ∧ p.Spans c.before.reverse w c'.rest := by
  induction p generalizing c c' with
  | empty =>
    rw [List.mem_singleton.1 h]
    exact ⟨[], .refl c, .empty⟩
  | char test =>
    obtain ⟨x, rest, hrest, hx, rfl⟩ := mem_ways_char_iff.1 h
    exact ⟨[x], ⟨by simp, rfl, hrest⟩, .char hx⟩
  | seq p q ihp ihq =>
    obtain ⟨c₁, hc₁, hc'⟩ := List.mem_flatMap.1 h
    obtain ⟨v, hov, hv⟩ := ihp hc₁
    obtain ⟨w, how, hw⟩ := ihq hc'
    exact ⟨v ++ w, hov.trans how, hv.seq_over hov hw how⟩
  | alt p q ihp ihq =>
    rcases List.mem_append.1 h with h | h
    · obtain ⟨w, ho, hw⟩ := ihp h
      exact ⟨w, ho, .left hw⟩
    · obtain ⟨w, ho, hw⟩ := ihq h
      exact ⟨w, ho, .right hw⟩
  | star lazily p ih =>
    refine mem_ways_star_induction
      (R := fun c c' => ∃ w, c.Over w c' ∧ (Pattern.star lazily p).Spans c.before.reverse w c'.rest)
      (fun c => ⟨[], .refl c, .stop⟩) (fun hc₁ hlt hmore => ?_) h
    obtain ⟨v, hov, hv⟩ := ih hc₁
    obtain ⟨w, how, hw⟩ := hmore
    exact ⟨v ++ w, hov.trans how, hv.round_over hov hlt hw how⟩
  | group name p ih =>
    obtain ⟨c₁, hc₁, rfl⟩ := List.mem_map.1 h
    obtain ⟨w, ho, hw⟩ := ih hc₁
    exact ⟨w, ⟨ho.before, ho.pos, ho.rest⟩, .group hw⟩
  | atStart =>
    obtain ⟨hb, rfl⟩ := mem_ways_atStart_iff.1 h
    rw [hb]
    exact ⟨[], .refl c', .atStart⟩
  | atEnd =>
    obtain ⟨hr, rfl⟩ := mem_ways_atEnd_iff.1 h
    rw [hr]
    exact ⟨[], .refl c', .atEnd⟩

/-- There is a way over every piece of text that the pattern can match. -/
theorem exists_mem_ways (h : p.Spans a w b) (ha : c.before.reverse = a) (hr : c.rest = w ++ b) :
    ∃ c' ∈ p.ways c, c.Over w c' := by
  induction h generalizing c with
  | empty => exact ⟨c, List.mem_singleton_self c, .refl c⟩
  | @char test x a b hx =>
    refine ⟨{ c with before := x :: c.before, pos := c.pos + 1, rest := b }, ?_, by simp, rfl, hr⟩
    exact mem_ways_char_iff.2 ⟨x, b, hr, hx, rfl⟩
  | seq hp hq ihp ihq =>
    obtain ⟨c₁, hc₁, ho⟩ := ihp ha (by rw [hr, List.append_assoc])
    have hr₁ := ho.rest.symm.trans hr
    rw [List.append_assoc, List.append_cancel_left_eq] at hr₁
    obtain ⟨c', hc', ho'⟩ := ihq (by rw [ho.before, ha]) hr₁
    exact ⟨c', List.mem_flatMap.2 ⟨c₁, hc₁, hc'⟩, ho.trans ho'⟩
  | left h ih =>
    obtain ⟨c', hc', ho⟩ := ih ha hr
    exact ⟨c', List.mem_append_left _ hc', ho⟩
  | right h ih =>
    obtain ⟨c', hc', ho⟩ := ih ha hr
    exact ⟨c', List.mem_append_right _ hc', ho⟩
  | stop =>
    refine ⟨c, ?_, .refl c⟩
    exact mem_rounds_mono (Nat.zero_le _) (mem_rounds_zero_iff.2 rfl)
  | @round lazily p a v w b hv hp hs ihp ihs =>
    obtain ⟨c₁, hc₁, ho⟩ := ihp ha (by rw [hr, List.append_assoc])
    have hr₁ := ho.rest.symm.trans hr
    rw [List.append_assoc, List.append_cancel_left_eq] at hr₁
    obtain ⟨c', hc', ho'⟩ := ihs (by rw [ho.before, ha]) hr₁
    refine ⟨c', ?_, ho.trans ho'⟩
    -- The round took a character, so fewer rounds than characters are left to go.
    have hpos := List.length_pos_iff.2 hv
    have hlen : c.rest.length = v.length + c₁.rest.length := by rw [ho.rest, List.length_append]
    obtain ⟨n, hn⟩ : ∃ n, c.rest.length = n + 1 := ⟨c.rest.length - 1, by omega⟩
    unfold ways
    rw [hn]
    refine mem_rounds_succ_iff.2 (Or.inr ⟨c₁, hc₁, ?_, mem_rounds_mono ?_ hc'⟩)
    · rw [ho.pos]
      omega
    · omega
  | @group name p a w b h ih =>
    obtain ⟨c', hc', ho⟩ := ih ha hr
    exact ⟨_, List.mem_map.2 ⟨c', hc', rfl⟩, ho.before, ho.pos, ho.rest⟩
  | atStart => exact ⟨c, mem_ways_atStart_iff.2 ⟨List.reverse_eq_nil_iff.1 ha, rfl⟩, .refl c⟩
  | atEnd => exact ⟨c, mem_ways_atEnd_iff.2 ⟨hr, rfl⟩, .refl c⟩

/-! ## The pieces of single forms -/

theorem spans_empty_iff : Pattern.empty.Spans a w b ↔ w = [] := by
  constructor
  · rintro ⟨⟩
    rfl
  · rintro rfl
    exact .empty

theorem spans_char_iff : (Pattern.char test).Spans a w b ↔ ∃ x, test x = true ∧ w = [x] := by
  constructor
  · rintro ⟨⟩
    exact ⟨_, ‹_›, rfl⟩
  · rintro ⟨x, hx, rfl⟩
    exact .char hx

theorem spans_seq_iff : (Pattern.seq p q).Spans a w b ↔
    ∃ v u, w = v ++ u ∧ p.Spans a v (u ++ b) ∧ q.Spans (a ++ v) u b := by
  constructor
  · rintro ⟨⟩
    exact ⟨_, _, rfl, ‹_›, ‹_›⟩
  · rintro ⟨v, u, rfl, hp, hq⟩
    exact .seq hp hq

theorem spans_atStart_iff : Pattern.atStart.Spans a w b ↔ a = [] ∧ w = [] := by
  constructor
  · rintro ⟨⟩
    exact ⟨rfl, rfl⟩
  · rintro ⟨rfl, rfl⟩
    exact .atStart

theorem spans_atEnd_iff : Pattern.atEnd.Spans a w b ↔ w = [] ∧ b = [] := by
  constructor
  · rintro ⟨⟩
    exact ⟨rfl, rfl⟩
  · rintro ⟨rfl, rfl⟩
    exact .atEnd

/-- A sequence takes a piece for its first pattern and one for the others. -/
theorem spans_all_cons (p : Pattern) (ps : List Pattern) : (all (p :: ps)).Spans a w b ↔
    ∃ v u, w = v ++ u ∧ p.Spans a v (u ++ b) ∧ (all ps).Spans (a ++ v) u b := by
  cases ps with
  | cons q ps => exact spans_seq_iff
  | nil =>
    simp only [all, spans_empty_iff]
    constructor
    · exact fun h => ⟨w, [], (List.append_nil w).symm, h, rfl⟩
    · rintro ⟨v, _, rfl, h, rfl⟩
      rwa [List.append_nil]

theorem spans_chars_iff (cs : List Char) :
    (all (cs.map fun c => .char (· == c))).Spans a w b ↔ w = cs := by
  induction cs generalizing a w with
  | nil => exact spans_empty_iff
  | cons c cs ih =>
    simp only [List.map_cons, spans_all_cons, spans_char_iff, ih, beq_iff_eq]
    constructor
    · rintro ⟨_, _, rfl, ⟨_, rfl, rfl⟩, rfl⟩
      rfl
    · rintro rfl
      exact ⟨[c], cs, rfl, ⟨c, rfl, rfl⟩, rfl⟩

/-- A literal text matches itself. -/
theorem spans_lit_iff (s : String) : (lit s).Spans a w b ↔ w = s.toList :=
  spans_chars_iff s.toList

/-- Rounds of one character make up any text of characters that pass. -/
theorem spans_many_char_iff : (many (.char test)).Spans a w b ↔ ∀ x ∈ w, test x = true := by
  constructor
  · intro h
    generalize hp : many (.char test) = p at h
    induction h with
    | stop => exact List.forall_mem_nil _
    | round _ hround _ _ ih =>
      obtain ⟨rfl, rfl⟩ := Pattern.star.inj hp
      obtain ⟨x, hx, rfl⟩ := spans_char_iff.1 hround
      exact List.forall_mem_cons.2 ⟨hx, ih rfl⟩
    | _ => cases hp
  · intro h
    induction w generalizing a with
    | nil => exact .stop
    | cons x w ih =>
      obtain ⟨hx, hw⟩ := List.forall_mem_cons.1 h
      exact .round (v := [x]) (List.cons_ne_nil _ _) (.char hx) (ih hw)

/-! ## Patterns that match something -/

/-- Whether a pattern may match the empty text. -/
def mayBeEmpty : Pattern → Bool
  | .char _ => false
  | .seq p q => mayBeEmpty p && mayBeEmpty q
  | .alt p q => mayBeEmpty p || mayBeEmpty q
  | .group _ p => mayBeEmpty p
  | _ => true

theorem Spans.ne_nil (h : p.Spans a w b) (hp : p.mayBeEmpty = false) : w ≠ [] := by
  induction h with
  | empty => cases hp
  | char => exact List.cons_ne_nil _ _
  | seq _ _ ihp ihq =>
    rw [mayBeEmpty, Bool.and_eq_false_iff] at hp
    intro hnil
    obtain ⟨hv, hw⟩ := List.append_eq_nil_iff.1 hnil
    rcases hp with hp | hq
    · exact ihp hp hv
    · exact ihq hq hw
  | left _ ih => exact ih (Bool.or_eq_false_iff.1 hp).1
  | right _ ih => exact ih (Bool.or_eq_false_iff.1 hp).2
  | stop => cases hp
  | round => cases hp
  | group _ ih => exact ih hp
  | atStart => cases hp
  | atEnd => cases hp

end Pattern

end Gazetteer
