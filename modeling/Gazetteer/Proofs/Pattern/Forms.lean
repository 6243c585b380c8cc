import Gazetteer.Proofs.Pattern.Outcomes

/-!
# The outcomes of common patterns

What a sequence, a literal text, a run of characters or a group comes to, once for the outcomes at
the front of a text and once for the texts that a pattern matches as a whole (`Reads`): what a
pattern matches it can match alone, and wherever that stands it can match it (`mem_outcomes_iff`).
-/

namespace Gazetteer.Pattern

variable {p q : Pattern} {ps : List Pattern} {s w : List Char} {o : Outcome} {x : Char}
  {test : Char → Bool}

/-! ## Sequences -/

theorem outcomes_all_cons (p : Pattern) (ps : List Pattern) (s : List Char) :
    (all (p :: ps)).outcomes s =
      (p.outcomes s).flatMap fun o => ((all ps).outcomes o.rest).map o.andThen := by
  cases ps with
  | nil =>
    show p.outcomes s = (p.outcomes s).flatMap fun o => [o.andThen (.stay o.rest)]
    have hstay : ∀ o : Outcome, o.andThen (.stay o.rest) = o := fun o => by
      simp [Outcome.andThen, Outcome.stay]
    simp only [hstay, List.flatMap_singleton']
  | cons q ps => rfl

theorem outcomes_all_concat (ps : List Pattern) (q : Pattern) (s : List Char) :
    (all (ps ++ [q])).outcomes s =
      ((all ps).outcomes s).flatMap fun o => (q.outcomes o.rest).map o.andThen := by
  induction ps generalizing s with
  | nil =>
    have hid : (Outcome.stay s).andThen = id := funext fun o => Outcome.stay_andThen s o
    show q.outcomes s = (q.outcomes s).map (Outcome.stay s).andThen ++ []
    rw [hid, List.map_id, List.append_nil]
  | cons p ps ih =>
    rw [List.cons_append, outcomes_all_cons, outcomes_all_cons, List.flatMap_assoc]
    refine List.flatMap_congr fun o _ => ?_
    rw [ih, List.map_flatMap, List.flatMap_map]
    refine List.flatMap_congr fun o' _ => ?_
    rw [List.map_map]
    exact List.map_congr_left fun o'' _ => (Outcome.andThen_assoc o o' o'').symm

/-- Behind a sequence that can match in one way only, the match of the last pattern counts. -/
theorem first?_all_concat (ho : o ∈ (all ps).outcomes s)
    (hone : ∀ o' ∈ (all ps).outcomes s, o' = o) (q : Pattern) :
    (all (ps ++ [q])).first? s = (q.first? o.rest).map o.andThen := by
  unfold first?
  rw [outcomes_all_concat]
  cases hos : (all ps).outcomes s with
  | nil =>
    rw [hos] at ho
    cases ho
  | cons o₁ os =>
    rw [hos] at hone
    obtain ⟨rfl, hos⟩ := List.forall_mem_cons.1 hone
    rw [List.eq_replicate_of_mem hos, List.flatMap_cons, List.head?_append, List.head?_map]
    cases hq : q.outcomes o₁.rest with
    | nil => simp [hq]
    | cons o' os => rfl

/-! ## Outcomes of the common forms -/

theorem mem_outcomes_all_cons :
    o ∈ (all (p :: ps)).outcomes s ↔
      ∃ o₁ ∈ p.outcomes s, ∃ o₂ ∈ (all ps).outcomes o₁.rest, o₁.andThen o₂ = o := by
  rw [outcomes_all_cons]
  simp only [List.mem_flatMap, List.mem_map]

theorem mem_outcomes_group {name : String} :
    o ∈ (Pattern.group name p).outcomes s ↔
      ∃ o' ∈ p.outcomes s, { o' with groups := (name, o'.text) :: o'.groups } = o :=
  List.mem_map

theorem mem_outcomes_opt : o ∈ (opt p).outcomes s ↔ o ∈ p.outcomes s ∨ o = .stay s := by
  show o ∈ p.outcomes s ++ [.stay s] ↔ _
  rw [List.mem_append, List.mem_singleton]

theorem mem_outcomes_chars {cs : List Char} :
    o ∈ (all (cs.map fun c => .char (· == c))).outcomes s ↔
      s = cs ++ o.rest ∧ o.text = cs ∧ o.groups = [] := by
  induction cs generalizing s o with
  | nil => simp [all, outcomes, Outcome.stay, Outcome.ext_iff, and_left_comm, eq_comm]
  | cons c cs ih =>
    rw [List.map_cons, mem_outcomes_all_cons]
    constructor
    · rintro ⟨o₁, ho₁, o₂, ho₂, rfl⟩
      obtain ⟨x, hx, rfl, htext, hgroups⟩ := mem_outcomes_char.1 ho₁
      obtain ⟨hrest, htext', hgroups'⟩ := ih.1 ho₂
      rw [beq_iff_eq.1 hx, hrest]
      simp [Outcome.andThen, htext, htext', hgroups, hgroups', beq_iff_eq.1 hx]
    · rintro ⟨rfl, htext, hgroups⟩
      refine ⟨⟨[c], cs ++ o.rest, []⟩, mem_outcomes_char.2 ⟨c, by simp, rfl, rfl, rfl⟩,
        ⟨cs, o.rest, []⟩, ih.2 ⟨rfl, rfl, rfl⟩, ?_⟩
      simp [Outcome.andThen, Outcome.ext_iff, htext, hgroups]

theorem mem_outcomes_lit {t : String} :
    o ∈ (lit t).outcomes s ↔ s = t.toList ++ o.rest ∧ o.text = t.toList ∧ o.groups = [] :=
  mem_outcomes_chars

theorem outcomes_many_char_nil : (many (.char test)).outcomes [] = [.stay []] := rfl

theorem outcomes_many_char_cons :
    (many (.char test)).outcomes (x :: s) =
      if test x then ((many (.char test)).outcomes s).map (Outcome.mk [x] s []).andThen ++
        [.stay (x :: s)] else [.stay (x :: s)] := by
  show outcomesOfRounds false _ (s.length + 1) (x :: s) = _
  unfold outcomesOfRounds
  rw [outcomes_char_cons]
  cases test x with
  | false => simp
  | true =>
    simp [Outcome.further]
    rfl

theorem mem_outcomes_many_char_cons :
    o ∈ (many (.char test)).outcomes (x :: s) ↔ o = .stay (x :: s) ∨
      test x = true ∧
        ∃ o' ∈ (many (.char test)).outcomes s, (Outcome.mk [x] s []).andThen o' = o := by
  rw [outcomes_many_char_cons]
  cases test x with
  | false => simp
  | true =>
    simp only [if_true, List.mem_append, List.mem_map, List.mem_singleton, true_and]
    exact or_comm

theorem mem_outcomes_many_char :
    o ∈ (many (.char test)).outcomes s ↔
      s = o.text ++ o.rest ∧ (∀ c ∈ o.text, test c = true) ∧ o.groups = [] := by
  induction s generalizing o with
  | nil =>
    rw [outcomes_many_char_nil, List.mem_singleton, Outcome.ext_iff, Outcome.stay]
    constructor
    · rintro ⟨htext, hrest, hgroups⟩
      simp [htext, hrest, hgroups]
    · rintro ⟨hs, -, hgroups⟩
      obtain ⟨htext, hrest⟩ := List.append_eq_nil_iff.1 hs.symm
      exact ⟨htext, hrest, hgroups⟩
  | cons x s ih =>
    rw [mem_outcomes_many_char_cons]
    constructor
    · rintro (rfl | ⟨hx, o', ho', rfl⟩)
      · simp [Outcome.stay]
      · obtain ⟨hs, htest, hgroups⟩ := ih.1 ho'
        exact ⟨congrArg (x :: ·) hs, List.forall_mem_cons.2 ⟨hx, htest⟩, by
          rw [Outcome.andThen, hgroups]
          rfl⟩
    · rintro ⟨hs, htest, hgroups⟩
      obtain ⟨text, rest, groups⟩ := o
      cases text with
      | nil => exact Or.inl (Outcome.ext rfl hs.symm hgroups)
      | cons y text =>
        obtain ⟨rfl, rfl⟩ := List.cons.inj hs
        obtain ⟨hx, htest⟩ := List.forall_mem_cons.1 htest
        exact Or.inr ⟨hx, ⟨text, rest, []⟩, ih.2 ⟨rfl, htest, rfl⟩,
          Outcome.ext rfl rfl hgroups.symm⟩

/-- Where what follows cannot start with a character of a repetition, the repetition takes all that
it can. -/
theorem outcomes_many_char_seq (h : ∀ x s, test x = true → q.outcomes (x :: s) = [])
    (s : List Char) :
    (Pattern.seq (many (.char test)) q).outcomes s =
      (q.outcomes (s.dropWhile test)).map
        (Outcome.mk (s.takeWhile test) (s.dropWhile test) []).andThen := by
  have hid : ∀ s, (Outcome.stay s).andThen = id := fun s => funext fun o => Outcome.stay_andThen s o
  show ((many (.char test)).outcomes s).flatMap (fun o => (q.outcomes o.rest).map o.andThen) = _
  induction s with
  | nil =>
    rw [outcomes_many_char_nil]
    exact List.append_nil _
  | cons x s ih =>
    rw [outcomes_many_char_cons]
    cases hx : test x with
    | false =>
      simp only [Bool.false_eq_true, if_false, List.flatMap_cons, List.flatMap_nil, List.append_nil,
        List.dropWhile_cons, List.takeWhile_cons, hx]
      rfl
    | true =>
      -- to stop in front of the character leads nowhere
      have hstop : (q.outcomes (Outcome.stay (x :: s)).rest) = [] := h x s hx
      simp only [if_true, List.flatMap_append, List.flatMap_map, List.flatMap_cons,
        List.flatMap_nil, hstop, List.map_nil, List.append_nil, List.dropWhile_cons,
        List.takeWhile_cons, hx]
      have hmove : ∀ o : Outcome,
          (q.outcomes ((Outcome.mk [x] s []).andThen o).rest).map
              ((Outcome.mk [x] s []).andThen o).andThen =
            ((q.outcomes o.rest).map o.andThen).map (Outcome.mk [x] s []).andThen := fun o => by
        rw [List.map_map]
        exact List.map_congr_left fun o' _ => Outcome.andThen_assoc _ _ _
      simp only [hmove]
      rw [← List.map_flatMap, ih, List.map_map]
      exact List.map_congr_left fun o' _ => by simp [Outcome.andThen]

/-! ## Texts that are read whole -/

/-- A pattern can match a whole text, with these groups. -/
def Reads (p : Pattern) (w : List Char) (groups : List (String × List Char)) : Prop :=
  ⟨w, [], groups⟩ ∈ p.outcomes w

variable {g : List (String × List Char)}

/-- What a pattern matches it can match alone, and wherever that stands it can match it. -/
theorem mem_outcomes_iff (hp : p.isAnchored = false) :
    o ∈ p.outcomes s ↔ s = o.text ++ o.rest ∧ p.Reads o.text o.groups := by
  have hextend : (Outcome.mk o.text [] o.groups).extend o.rest = o := rfl
  have hleaves : o.leaves o.rest = true := decide_eq_true (Nat.le_refl _)
  have hreads : p.Reads o.text o.groups ↔ o ∈ p.outcomes (o.text ++ o.rest) := by
    have hmem : o ∈ (p.outcomes (o.text ++ o.rest)).filter (Outcome.leaves o.rest) ↔
        o ∈ p.outcomes (o.text ++ o.rest) := by
      rw [List.mem_filter, hleaves]
      exact and_iff_left rfl
    rw [← hmem, ← outcomes_append hp o.rest o.text, List.mem_map]
    constructor
    · exact fun h => ⟨_, h, hextend⟩
    · rintro ⟨o', ho', heq⟩
      obtain ⟨htext, hrest, hgroups⟩ := Outcome.ext_iff.1 heq
      have hnil : o'.rest = [] := List.append_left_eq_self.1 hrest
      rw [Reads, ← show o' = ⟨o.text, [], o.groups⟩ from Outcome.ext htext hnil hgroups]
      exact ho'
  rw [hreads]
  constructor
  · exact fun ho => ⟨(text_append_rest ho).symm, (text_append_rest ho).symm ▸ ho⟩
  · rintro ⟨rfl, ho⟩
    exact ho

theorem reads_all_cons (hps : (all ps).isAnchored = false) (hp : p.isAnchored = false) :
    (all (p :: ps)).Reads w g ↔
      ∃ u v gu gv, w = u ++ v ∧ g = gv ++ gu ∧ p.Reads u gu ∧ (all ps).Reads v gv := by
  unfold Reads
  rw [mem_outcomes_all_cons]
  constructor
  · rintro ⟨o₁, ho₁, o₂, ho₂, heq⟩
    obtain ⟨htext, hrest, hgroups⟩ := Outcome.ext_iff.1 heq
    exact ⟨o₁.text, o₂.text, o₁.groups, o₂.groups, htext.symm, hgroups.symm,
      ((mem_outcomes_iff hp).1 ho₁).2, ((mem_outcomes_iff hps).1 ho₂).2⟩
  · rintro ⟨u, v, gu, gv, rfl, rfl, hu, hv⟩
    exact ⟨⟨u, v, gu⟩, (mem_outcomes_iff hp).2 ⟨rfl, hu⟩, ⟨v, [], gv⟩, hv, rfl⟩

theorem reads_char : (Pattern.char test).Reads w g ↔ ∃ x, test x = true ∧ w = [x] ∧ g = [] := by
  rw [Reads, mem_outcomes_char]
  constructor
  · rintro ⟨x, hx, -, hw, hg⟩
    exact ⟨x, hx, hw, hg⟩
  · rintro ⟨x, hx, rfl, rfl⟩
    exact ⟨x, hx, rfl, rfl, rfl⟩

theorem reads_lit {t : String} : (lit t).Reads w g ↔ w = t.toList ∧ g = [] := by
  rw [Reads, mem_outcomes_lit]
  simp

theorem reads_many_char :
    (many (.char test)).Reads w g ↔ (∀ c ∈ w, test c = true) ∧ g = [] := by
  rw [Reads, mem_outcomes_many_char]
  simp

theorem reads_many1_char :
    (many1 (.char test)).Reads w g ↔ w ≠ [] ∧ (∀ c ∈ w, test c = true) ∧ g = [] := by
  show (all [.char test, many (.char test)]).Reads w g ↔ _
  rw [reads_all_cons rfl rfl]
  simp only [reads_char]
  constructor
  · rintro ⟨_, v, _, gv, rfl, rfl, ⟨x, hx, rfl, rfl⟩, hv⟩
    obtain ⟨hall, rfl⟩ := reads_many_char.1 hv
    exact ⟨by simp, List.forall_mem_cons.2 ⟨hx, hall⟩, rfl⟩
  · rintro ⟨hne, hall, rfl⟩
    obtain ⟨x, w, rfl⟩ := List.exists_cons_of_ne_nil hne
    obtain ⟨hx, hw⟩ := List.forall_mem_cons.1 hall
    exact ⟨[x], w, [], [], rfl, rfl, ⟨x, hx, rfl, rfl⟩, reads_many_char.2 ⟨hw, rfl⟩⟩

theorem reads_group {name : String} :
    (Pattern.group name p).Reads w g ↔ ∃ g', g = (name, w) :: g' ∧ p.Reads w g' := by
  unfold Reads
  rw [mem_outcomes_group]
  constructor
  · rintro ⟨o, ho, heq⟩
    obtain ⟨rfl, hrest, rfl⟩ := Outcome.ext_iff.1 heq
    exact ⟨o.groups, rfl, (Outcome.ext rfl hrest rfl : o = ⟨o.text, [], o.groups⟩) ▸ ho⟩
  · rintro ⟨g', rfl, h⟩
    exact ⟨_, h, rfl⟩

theorem reads_opt : (opt p).Reads w g ↔ p.Reads w g ∨ w = [] ∧ g = [] := by
  unfold Reads
  rw [mem_outcomes_opt, Outcome.ext_iff]
  refine or_congr_right ⟨fun ⟨htext, _, hg⟩ => ⟨htext, hg⟩, ?_⟩
  rintro ⟨rfl, rfl⟩
  exact ⟨rfl, rfl, rfl⟩

end Gazetteer.Pattern
