import Gazetteer.Proofs.Pattern.Forms

/-!
# The way that counts, part by part

If the first way to match one pattern can be followed by another pattern, the first way to match
both goes on from there (`first?_seq`). So a greedy repetition takes one round after another for as
long as there is one (`first?_many_of_some`), and the matches in a text can be listed one by one
(`occurrencesFrom_of_some`, `occurrencesFrom_of_none`).
-/

namespace Gazetteer.Pattern

variable {p q : Pattern} {s a u v w : List Char} {o o' : Outcome} {x : Char} {test : Char → Bool}

/-! ## Sequences and groups -/

theorem first?_of_unique (ho : o ∈ p.outcomes s) (hone : ∀ o' ∈ p.outcomes s, o' = o) :
    p.first? s = some o := by
  unfold first?
  cases hos : p.outcomes s with
  | nil =>
    rw [hos] at ho
    cases ho
  | cons o₁ os =>
    rw [List.head?_cons, hone o₁ (hos ▸ List.mem_cons_self)]

theorem first?_lit (t : String) (s : List Char) :
    (lit t).first? (t.toList ++ s) = some ⟨t.toList, s, []⟩ := by
  refine first?_of_unique (mem_outcomes_lit.2 ⟨rfl, rfl, rfl⟩) fun o ho => ?_
  obtain ⟨hs, htext, hgroups⟩ := mem_outcomes_lit.1 ho
  exact Outcome.ext htext (List.append_cancel_left hs).symm hgroups

theorem head?_flatMap_of_head? {α β : Type} {f : α → List β} {as : List α} {a : α} {b : β}
    (ha : as.head? = some a) (hb : (f a).head? = some b) : (as.flatMap f).head? = some b := by
  obtain ⟨rest, rfl⟩ := List.head?_eq_some_iff.1 ha
  rw [List.flatMap_cons, List.head?_append, hb]
  rfl

theorem head?_map_andThen {os : List Outcome} (h : os.head? = some o') (o : Outcome) :
    (os.map o.andThen).head? = some (o.andThen o') := by
  rw [List.head?_map, h, Option.map_some]

theorem first?_seq (hp : p.first? s = some o) (hq : q.first? o.rest = some o') :
    (Pattern.seq p q).first? s = some (o.andThen o') :=
  head?_flatMap_of_head? hp (head?_map_andThen hq o)

theorem first?_seq_eq_none (h : p.first? s = none) : (Pattern.seq p q).first? s = none := by
  have hp : p.outcomes s = [] := List.head?_eq_none_iff.1 h
  unfold first? outcomes
  rw [hp]
  rfl

theorem first?_lit_eq_none {t : String} (h : ¬t.toList <+: s) : (lit t).first? s = none := by
  refine List.head?_eq_none_iff.2 (List.eq_nil_iff_forall_not_mem.2 fun o ho => h ?_)
  rw [(mem_outcomes_lit.1 ho).1]
  exact List.prefix_append ..

theorem first?_group (h : p.first? s = some o) (name : String) :
    (Pattern.group name p).first? s = some { o with groups := (name, o.text) :: o.groups } := by
  show ((p.outcomes s).map _).head? = _
  rw [List.head?_map, show (p.outcomes s).head? = some o from h, Option.map_some]

/-! ## Greedy repetitions -/

/-- A repetition ends where there is no round. -/
theorem first?_many_of_none (h : p.first? s = none) : (many p).first? s = some (.stay s) := by
  have hp : p.outcomes s = [] := List.head?_eq_none_iff.1 h
  show (outcomesOfRounds false p.outcomes s.length s).head? = _
  cases s.length with
  | zero => rfl
  | succ n => simp [outcomesOfRounds, hp]

/-- If there is a round that moves on, a repetition takes it and goes on behind it. -/
theorem first?_many_of_some (hp : p.first? s = some o) (hne : o.text ≠ [])
    (h : (many p).first? o.rest = some o') : (many p).first? s = some (o.andThen o') := by
  have hs := text_append_rest (mem_outcomes_of_first? hp)
  obtain ⟨n, hn⟩ : ∃ n, s.length = n + 1 := by
    have hpos := List.length_pos_iff.2 hne
    refine ⟨s.length - 1, ?_⟩
    rw [← hs, List.length_append]
    omega
  have hle : o.rest.length ≤ n := by
    have hpos := List.length_pos_iff.2 hne
    have hlen := congrArg List.length hs
    rw [List.length_append] at hlen
    omega
  have hrounds : outcomesOfRounds false p.outcomes n o.rest = (many p).outcomes o.rest :=
    outcomesOfRounds_eq_of_le (fun _ _ => text_append_rest) hle (Nat.le_refl _)
  have hfurther : (o.further (outcomesOfRounds false p.outcomes n)).head? =
      some (o.andThen o') := by
    unfold Outcome.further
    rw [if_neg (by simpa using hne), hrounds]
    exact head?_map_andThen h o
  show (outcomesOfRounds false p.outcomes s.length s).head? = _
  rw [hn]
  unfold outcomesOfRounds
  simp only [Bool.false_eq_true, if_false]
  rw [List.head?_append, head?_flatMap_of_head? hp hfurther]
  rfl

theorem first?_char_eq_none (h : ∀ c ∈ s.head?, test c = false) :
    (Pattern.char test).first? s = none := by
  refine List.head?_eq_none_iff.2 (List.eq_nil_iff_forall_not_mem.2 fun o ho => ?_)
  obtain ⟨x, hx, rfl, -⟩ := mem_outcomes_char.1 ho
  rw [h x rfl] at hx
  cases hx

theorem first?_char (h : test x = true) (s : List Char) :
    (Pattern.char test).first? (x :: s) = some ⟨[x], s, []⟩ := by
  unfold first?
  rw [outcomes_char_cons, if_pos h, List.head?_cons]

/-- A repetition of a character takes the whole run of such characters. -/
theorem first?_many_char (hu : ∀ c ∈ u, test c = true) (hv : ∀ c ∈ v.head?, test c = false) :
    (many (.char test)).first? (u ++ v) = some ⟨u, v, []⟩ := by
  induction u with
  | nil => exact first?_many_of_none (first?_char_eq_none hv)
  | cons x u ih =>
    obtain ⟨hx, hu⟩ := List.forall_mem_cons.1 hu
    exact first?_many_of_some (first?_char hx (u ++ v)) (by simp) (ih hu)

theorem first?_many1_char (hne : u ≠ []) (hu : ∀ c ∈ u, test c = true)
    (hv : ∀ c ∈ v.head?, test c = false) :
    (many1 (.char test)).first? (u ++ v) = some ⟨u, v, []⟩ := by
  obtain ⟨x, u, rfl⟩ := List.exists_cons_of_ne_nil hne
  obtain ⟨hx, hu⟩ := List.forall_mem_cons.1 hu
  exact first?_seq (first?_char hx (u ++ v)) (first?_many_char hu hv)

/-! ## The matches in a text -/

theorem occurrencesFrom_skip (p : Pattern) (a w s : List Char) :
    p.occurrencesFrom a.reverse a.length w.length (w ++ s) =
      p.occurrencesFrom (a ++ w).reverse (a ++ w).length 0 s := by
  induction w generalizing a with
  | nil => simp
  | cons x w ih =>
    have h := ih (a ++ [x])
    simp only [List.reverse_append, List.length_append, List.append_assoc, List.reverse_singleton,
      List.singleton_append, List.length_singleton] at h
    simpa [occurrencesFrom] using h

/-- A match that is not empty is listed, and the matches behind it follow. -/
theorem occurrencesFrom_of_some (hp : p.isAnchored = false) (h : p.first? s = some o)
    (hne : o.text ≠ []) (a : List Char) :
    p.occurrencesFrom a.reverse a.length 0 s =
      o.toMatch a :: p.occurrencesFrom (a ++ o.text).reverse (a ++ o.text).length 0 o.rest := by
  have hat := matchAt_between hp a s
  rw [h, Option.map_some] at hat
  obtain ⟨x, w, hw⟩ := List.exists_cons_of_ne_nil hne
  have hs := text_append_rest (mem_outcomes_of_first? h)
  rw [hw, List.cons_append] at hs
  subst hs
  have hskip := occurrencesFrom_skip p (a ++ [x]) w o.rest
  simp only [List.reverse_append, List.length_append, List.append_assoc, List.reverse_singleton,
    List.singleton_append, List.length_singleton] at hskip
  have hlen : (o.toMatch a).text.length - 1 = w.length := by
    show o.text.length - 1 = _
    rw [hw, List.length_cons, Nat.add_sub_cancel]
  conv_lhs => rw [occurrencesFrom]
  rw [show p.matchAt ⟨a.reverse, a.length, x :: (w ++ o.rest), []⟩ = _ from hat]
  simp only [hlen, hskip, hw, List.reverse_append, List.length_append]

/-- Where there is no match the list goes on behind the next character. -/
theorem occurrencesFrom_of_none (hp : p.isAnchored = false) (h : p.first? (x :: s) = none)
    (a : List Char) :
    p.occurrencesFrom a.reverse a.length 0 (x :: s) =
      p.occurrencesFrom (a ++ [x]).reverse (a ++ [x]).length 0 s := by
  have hat := matchAt_between hp a (x :: s)
  rw [h, Option.map_none] at hat
  have hnone : p.matchAt ⟨a.reverse, a.length, x :: s, []⟩ = none := hat
  conv_lhs => rw [occurrencesFrom]
  simp [hnone]

end Gazetteer.Pattern
