import Gazetteer.Proofs.Data.Lists
import Gazetteer.Proofs.Pattern.Occurrences
import Mathlib.Data.List.Forall2

/-!
# What a match depends on

A pattern that does not ask where the text starts or ends goes by the text behind a place alone: the
ways to match it there, in the order in which they count, are the same wherever that text stands
(`matchAt_between`). Such a way is an `Outcome`: the text that is matched, the text that is left and
the groups. Cutting off the end of a text leaves the outcomes that do not reach into it
(`outcomes_append`); none does if the end starts with a character that the pattern does not allow.
-/

namespace Gazetteer.Pattern

/-- One way to match a pattern: what it matches, what is left of the text, and the texts of the
groups, the latest first. -/
@[ext]
structure Outcome where
  text : List Char
  rest : List Char
  groups : List (String × List Char)

namespace Outcome

/-- Nothing is matched. -/
def stay (s : List Char) : Outcome := ⟨[], s, []⟩

/-- One way to match, and another one from where it ends. -/
def andThen (o o' : Outcome) : Outcome := ⟨o.text ++ o'.text, o'.rest, o'.groups ++ o.groups⟩

/-- The same way with more text behind. -/
def extend (b : List Char) (o : Outcome) : Outcome := { o with rest := o.rest ++ b }

/-- The ways to go on behind a round that has moved on. -/
def further (next : List Char → List Outcome) (o : Outcome) : List Outcome :=
  if o.text.isEmpty then [] else (next o.rest).map o.andThen

theorem andThen_assoc (o o' o'' : Outcome) :
    (o.andThen o').andThen o'' = o.andThen (o'.andThen o'') := by
  simp [andThen]

@[simp] theorem stay_andThen (s : List Char) (o : Outcome) : (stay s).andThen o = o := by
  simp [stay, andThen]

end Outcome

/-- The outcomes of at most some number of rounds, each of which has to move on. -/
def outcomesOfRounds (lazily : Bool) (body : List Char → List Outcome) :
    Nat → List Char → List Outcome
  | 0, s => [.stay s]
  | n + 1, s =>
    let more := (body s).flatMap (Outcome.further (outcomesOfRounds lazily body n))
    if lazily then .stay s :: more else more ++ [.stay s]

/-- The ways to match a pattern at the front of a text, in the order in which they count. Whether
the text has a start or an end is not known, so a pattern that asks for them has none. -/
def outcomes : Pattern → List Char → List Outcome
  | .empty, s => [.stay s]
  | .char test, s =>
    match s with
    | x :: rest => if test x then [⟨[x], rest, []⟩] else []
    | [] => []
  | .seq p q, s => (outcomes p s).flatMap fun o => (outcomes q o.rest).map o.andThen
  | .alt p q, s => outcomes p s ++ outcomes q s
  | .star lazily p, s => outcomesOfRounds lazily (outcomes p) s.length s
  | .group name p, s =>
    (outcomes p s).map fun o => { o with groups := (name, o.text) :: o.groups }
  | .atStart, _ => []
  | .atEnd, _ => []

/-- Whether a pattern asks where the text starts or ends. -/
def isAnchored : Pattern → Bool
  | .seq p q | .alt p q => isAnchored p || isAnchored q
  | .star _ p | .group _ p => isAnchored p
  | .atStart | .atEnd => true
  | _ => false

/-- Whether a pattern allows a character anywhere in what it matches. -/
def allows : Pattern → Char → Bool
  | .char test, x => test x
  | .seq p q, x | .alt p q, x => allows p x || allows q x
  | .star _ p, x | .group _ p, x => allows p x
  | _, _ => false

variable {p q : Pattern} {ps : List Pattern} {s w b a : List Char} {c c' c₁ : Cursor}
  {o o' : Outcome} {x : Char} {test : Char → Bool} {lazily : Bool} {m : Match}
  {body : List Char → List Outcome}

/-! ## Outcomes and ways -/

/-- Parts that were matched keep their text when the match goes on. -/
theorem Cursor.Over.slice_of_le (h : c.Over w c') {start stop : Nat} (hstop : stop ≤ c.pos) :
    c'.slice start stop = c.slice start stop := by
  have hb : c'.before = w.reverse ++ c.before := by
    rw [← List.reverse_reverse c'.before, h.before, List.reverse_append, List.reverse_reverse]
  have hpos : c'.pos - stop = w.reverse.length + (c.pos - stop) := by
    rw [h.pos, List.length_reverse]
    omega
  unfold Cursor.slice
  rw [hb, hpos, List.drop_length_add_append]

/-- A place is what an outcome comes to, seen from another place. -/
structure Cursor.Reaches (c c' : Cursor) (o : Outcome) : Prop where
  goesOver : c.Over o.text c'
  rest : c'.rest = o.rest
  parts : ∃ parts, c'.parts = parts ++ c.parts ∧ (∀ part ∈ parts, part.stop ≤ c'.pos) ∧
    (parts.map fun part => (part.name, c'.slice part.start part.stop)) = o.groups

namespace Cursor.Reaches

theorem refl (c : Cursor) : c.Reaches c (.stay c.rest) where
  goesOver := .refl c
  rest := rfl
  parts := ⟨[], rfl, by simp, rfl⟩

theorem trans (h : c.Reaches c₁ o) (h' : c₁.Reaches c' o') : c.Reaches c' (o.andThen o') where
  goesOver := h.goesOver.trans h'.goesOver
  rest := h'.rest
  parts := by
    obtain ⟨parts, hparts, hstop, hgroups⟩ := h.parts
    obtain ⟨parts', hparts', hstop', hgroups'⟩ := h'.parts
    refine ⟨parts' ++ parts, by rw [hparts', hparts, List.append_assoc], fun part hpart => ?_, ?_⟩
    · rcases List.mem_append.1 hpart with hpart | hpart
      · exact hstop' part hpart
      · have := hstop part hpart
        have := h'.goesOver.pos
        omega
    · rw [List.map_append, hgroups']
      refine congrArg (o'.groups ++ ·) (Eq.trans (List.map_congr_left fun part hpart => ?_) hgroups)
      rw [h'.goesOver.slice_of_le (hstop part hpart)]

theorem group (h : c.Reaches c' o) (name : String) :
    c.Reaches { c' with parts := ⟨name, c.pos, c'.pos⟩ :: c'.parts }
      { o with groups := (name, o.text) :: o.groups } where
  goesOver := ⟨h.goesOver.before, h.goesOver.pos, h.goesOver.rest⟩
  rest := h.rest
  parts := by
    obtain ⟨parts, hparts, hstop, hgroups⟩ := h.parts
    refine ⟨⟨name, c.pos, c'.pos⟩ :: parts, congrArg _ hparts,
      List.forall_mem_cons.2 ⟨Nat.le_refl _, hstop⟩, ?_⟩
    rw [List.map_cons]
    exact congrArg₂ List.cons (congrArg (Prod.mk name) h.goesOver.slice_eq) hgroups

end Cursor.Reaches

theorem forall₂_rounds {ways : Cursor → List Cursor}
    (h : ∀ c, List.Forall₂ c.Reaches (ways c) (body c.rest)) (n : Nat) (c : Cursor) :
    List.Forall₂ c.Reaches (rounds lazily ways n c) (outcomesOfRounds lazily body n c.rest) := by
  induction n generalizing c with
  | zero => exact .cons (.refl c) .nil
  | succ n ih =>
    have hmore : List.Forall₂ c.Reaches
        ((ways c).flatMap fun c' => if c.pos < c'.pos then rounds lazily ways n c' else [])
        ((body c.rest).flatMap (Outcome.further (outcomesOfRounds lazily body n))) := by
      refine List.rel_flatMap (h c) fun c₁ o hreach => ?_
      have hlt : c.pos < c₁.pos ↔ o.text.isEmpty = false := by
        rw [hreach.goesOver.pos, List.isEmpty_eq_false_iff, ← List.length_pos_iff]
        omega
      simp only [hlt, Outcome.further, ← hreach.rest]
      cases o.text.isEmpty with
      | true => exact .nil
      | false =>
        simp only [if_true, Bool.false_eq_true, if_false, List.forall₂_map_right_iff]
        exact (ih c₁).imp fun _ _ hreach' => hreach.trans hreach'
    cases lazily with
    | false => exact List.rel_append hmore (.cons (.refl c) .nil)
    | true => exact .cons (.refl c) hmore

/-- The ways to match a pattern and its outcomes are the same, one by one. -/
theorem forall₂_ways (hp : p.isAnchored = false) (c : Cursor) :
    List.Forall₂ c.Reaches (p.ways c) (p.outcomes c.rest) := by
  induction p generalizing c with
  | empty => exact .cons (.refl c) .nil
  | char test =>
    unfold ways outcomes
    cases hr : c.rest with
    | nil => exact .nil
    | cons x rest =>
      cases hx : test x with
      | false => simp [hx]
      | true =>
        simp only [hx, if_true]
        exact .cons ⟨⟨by simp, rfl, hr⟩, rfl, [], rfl, by simp, rfl⟩ .nil
  | seq p q ihp ihq =>
    obtain ⟨hp, hq⟩ := Bool.or_eq_false_iff.1 hp
    refine List.rel_flatMap (ihp hp c) fun c₁ o hreach => ?_
    rw [← hreach.rest, List.forall₂_map_right_iff]
    exact (ihq hq c₁).imp fun _ _ hreach' => hreach.trans hreach'
  | alt p q ihp ihq =>
    obtain ⟨hp, hq⟩ := Bool.or_eq_false_iff.1 hp
    exact List.rel_append (ihp hp c) (ihq hq c)
  | star lazily p ih => exact forall₂_rounds (fun c => ih hp c) _ c
  | group name p ih =>
    unfold ways outcomes
    rw [List.forall₂_map_left_iff, List.forall₂_map_right_iff]
    exact (ih hp c).imp fun _ _ hreach => hreach.group name
  | atStart => cases hp
  | atEnd => cases hp

/-- The way that counts. -/
def first? (p : Pattern) (s : List Char) : Option Outcome := (p.outcomes s).head?

/-- The match of an outcome behind some text. -/
def Outcome.toMatch (o : Outcome) (a : List Char) : Match :=
  ⟨a.length, Text.utf8Length a, o.text, o.groups⟩

/-- What the match at a place is goes by the text behind the place alone. -/
theorem matchAt_between (hp : p.isAnchored = false) (a s : List Char) :
    p.matchAt (.between a s) = (p.first? s).map (·.toMatch a) := by
  have hways : List.Forall₂ (Cursor.between a s).Reaches (p.ways (.between a s)) (p.outcomes s) :=
    forall₂_ways hp (.between a s)
  rw [matchAt_eq]
  unfold first?
  show ((p.ways (.between a s)).head?).map _ = ((p.outcomes s).head?).map _
  generalize p.ways (.between a s) = places at hways ⊢
  generalize p.outcomes s = outcomes at hways ⊢
  cases hways with
  | nil => rfl
  | cons h _ =>
    obtain ⟨parts, hparts, -, hgroups⟩ := h.parts
    rw [show (Cursor.between a s).parts = [] from rfl, List.append_nil] at hparts
    simp only [List.head?_cons, Option.map_some, hparts, hgroups, h.goesOver.slice_eq]
    simp only [Outcome.toMatch, Cursor.between, Text.utf8Length_reverse]

/-! ## Single outcomes -/

theorem mem_further {next : List Char → List Outcome} :
    o ∈ o'.further next ↔ o'.text ≠ [] ∧ ∃ o₁ ∈ next o'.rest, o'.andThen o₁ = o := by
  unfold Outcome.further
  by_cases h : o'.text = []
  · simp [h]
  · simp [h]

theorem mem_outcomesOfRounds_succ {n : Nat} :
    o ∈ outcomesOfRounds lazily body (n + 1) s ↔
      o = .stay s ∨ ∃ o₁ ∈ body s, o₁.text ≠ [] ∧
        ∃ o₂ ∈ outcomesOfRounds lazily body n o₁.rest, o₁.andThen o₂ = o := by
  have hmore : o ∈ (body s).flatMap (Outcome.further (outcomesOfRounds lazily body n)) ↔
      ∃ o₁ ∈ body s, o₁.text ≠ [] ∧
        ∃ o₂ ∈ outcomesOfRounds lazily body n o₁.rest, o₁.andThen o₂ = o := by
    simp only [List.mem_flatMap, mem_further]
  cases lazily with
  | false => simp only [outcomesOfRounds, Bool.false_eq_true, if_false, List.mem_append, hmore,
      List.mem_singleton, or_comm]
  | true => simp only [outcomesOfRounds, if_true, List.mem_cons, hmore]

/-- What holds of no round, and of a round and then some more, holds of any number of rounds. -/
theorem mem_outcomesOfRounds_induction {R : List Char → Outcome → Prop}
    (stop : ∀ s, R s (.stay s))
    (round : ∀ {s o o'}, o ∈ body s → R o.rest o' → R s (o.andThen o')) {n : Nat}
    (ho : o ∈ outcomesOfRounds lazily body n s) : R s o := by
  induction n generalizing s o with
  | zero => exact List.mem_singleton.1 ho ▸ stop s
  | succ n ih =>
    rcases mem_outcomesOfRounds_succ.1 ho with rfl | ⟨o₁, ho₁, -, o₂, ho₂, rfl⟩
    · exact stop s
    · exact round ho₁ (ih ho₂)

theorem outcomes_char_cons :
    (Pattern.char test).outcomes (x :: s) = if test x then [⟨[x], s, []⟩] else [] := rfl

theorem mem_outcomes_char :
    o ∈ (Pattern.char test).outcomes s ↔
      ∃ x, test x = true ∧ s = x :: o.rest ∧ o.text = [x] ∧ o.groups = [] := by
  cases s with
  | nil => simp [outcomes]
  | cons y s =>
    rw [outcomes_char_cons]
    cases hy : test y with
    | false =>
      simp only [Bool.false_eq_true, if_false, List.not_mem_nil, false_iff, List.cons.injEq]
      rintro ⟨x, hx, ⟨rfl, -⟩, -⟩
      rw [hy] at hx
      cases hx
    | true =>
      simp only [if_true, List.mem_singleton, List.cons.injEq, Outcome.ext_iff]
      constructor
      · rintro ⟨htext, hrest, hgroups⟩
        exact ⟨y, hy, ⟨rfl, hrest.symm⟩, htext, hgroups⟩
      · rintro ⟨x, -, ⟨rfl, hrest⟩, htext, hgroups⟩
        exact ⟨htext, hrest.symm, hgroups⟩

theorem text_append_rest_of_mem_rounds (h : ∀ s, ∀ o ∈ body s, o.text ++ o.rest = s) {n : Nat}
    (ho : o ∈ outcomesOfRounds lazily body n s) : o.text ++ o.rest = s := by
  refine mem_outcomesOfRounds_induction (R := fun s o => o.text ++ o.rest = s) (fun _ => rfl)
    (fun ho₁ hmore => ?_) ho
  rw [← h _ _ ho₁, ← hmore]
  exact List.append_assoc ..

/-- An outcome says of each character of the text whether it was matched. -/
theorem text_append_rest (ho : o ∈ p.outcomes s) : o.text ++ o.rest = s := by
  induction p generalizing s o with
  | empty =>
    rw [List.mem_singleton.1 ho]
    rfl
  | char test =>
    obtain ⟨x, -, rfl, htext, -⟩ := mem_outcomes_char.1 ho
    rw [htext, List.singleton_append]
  | seq p q ihp ihq =>
    obtain ⟨o₁, ho₁, ho⟩ := List.mem_flatMap.1 ho
    obtain ⟨o₂, ho₂, rfl⟩ := List.mem_map.1 ho
    rw [← ihp ho₁, ← ihq ho₂]
    exact List.append_assoc ..
  | alt p q ihp ihq => exact (List.mem_append.1 ho).elim ihp ihq
  | star lazily p ih => exact text_append_rest_of_mem_rounds (fun _ _ h => ih h) ho
  | group name p ih =>
    obtain ⟨o₁, ho₁, rfl⟩ := List.mem_map.1 ho
    exact (ih ho₁ : o₁.text ++ o₁.rest = s)
  | atStart => cases ho
  | atEnd => cases ho

/-- What is matched consists of characters that the pattern allows, and the groups are among those
of the pattern. -/
theorem allows_and_groupNames (ho : o ∈ p.outcomes s) :
    (∀ x ∈ o.text, p.allows x = true) ∧ ∀ g ∈ o.groups, g.1 ∈ p.groupNames := by
  have hstay : ∀ {p : Pattern} s, (∀ x ∈ (Outcome.stay s).text, p.allows x = true) ∧
      ∀ g ∈ (Outcome.stay s).groups, g.1 ∈ p.groupNames := fun s => by simp [Outcome.stay]
  induction p generalizing s o with
  | empty =>
    rw [List.mem_singleton.1 ho]
    exact hstay s
  | char test =>
    obtain ⟨x, htest, -, htext, hgroups⟩ := mem_outcomes_char.1 ho
    simpa [allows, htext, hgroups] using htest
  | seq p q ihp ihq =>
    obtain ⟨o₁, ho₁, ho⟩ := List.mem_flatMap.1 ho
    obtain ⟨o₂, ho₂, rfl⟩ := List.mem_map.1 ho
    refine ⟨fun x hx => Bool.or_eq_true _ _ ▸ ?_, fun g hg => List.mem_append.2 ?_⟩
    · exact (List.mem_append.1 hx).imp ((ihp ho₁).1 x) ((ihq ho₂).1 x)
    · exact ((List.mem_append.1 hg).imp ((ihq ho₂).2 g) ((ihp ho₁).2 g)).symm
  | alt p q ihp ihq =>
    refine ⟨fun x hx => Bool.or_eq_true _ _ ▸ ?_, fun g hg => List.mem_append.2 ?_⟩
    · exact (List.mem_append.1 ho).imp (fun ho => (ihp ho).1 x hx) fun ho => (ihq ho).1 x hx
    · exact (List.mem_append.1 ho).imp (fun ho => (ihp ho).2 g hg) fun ho => (ihq ho).2 g hg
  | star lazily p ih =>
    refine mem_outcomesOfRounds_induction
      (R := fun _ o => (∀ x ∈ o.text, p.allows x = true) ∧ ∀ g ∈ o.groups, g.1 ∈ p.groupNames)
      hstay (fun ho₁ hmore => ?_) ho
    exact ⟨fun x hx => (List.mem_append.1 hx).elim ((ih ho₁).1 x) (hmore.1 x),
      fun g hg => (List.mem_append.1 hg).elim (hmore.2 g) ((ih ho₁).2 g)⟩
  | group name p ih =>
    obtain ⟨o₁, ho₁, rfl⟩ := List.mem_map.1 ho
    refine ⟨(ih ho₁).1, List.forall_mem_cons.2 ⟨List.mem_cons_self, fun g hg => ?_⟩⟩
    exact List.mem_cons_of_mem _ ((ih ho₁).2 g hg)
  | atStart => cases ho
  | atEnd => cases ho

theorem allows_of_mem_text (ho : o ∈ p.outcomes s) (hx : x ∈ o.text) : p.allows x = true :=
  (allows_and_groupNames ho).1 x hx

theorem groups_eq_nil (hp : p.groupNames = []) (ho : o ∈ p.outcomes s) : o.groups = [] := by
  refine List.eq_nil_iff_forall_not_mem.2 fun g hg => ?_
  have hname := (allows_and_groupNames ho).2 g hg
  rw [hp] at hname
  cases hname

theorem mem_outcomes_of_first? (h : p.first? s = some o) : o ∈ p.outcomes s :=
  List.mem_of_mem_head? h

theorem length_rest_le (ho : o ∈ p.outcomes s) : o.rest.length ≤ s.length := by
  rw [← text_append_rest ho, List.length_append]
  omega

/-! ## Cutting off the end of a text -/

theorem outcomesOfRounds_succ_congr {n k : Nat} (h : ∀ o ∈ body s, o.text ≠ [] →
    outcomesOfRounds lazily body n o.rest = outcomesOfRounds lazily body k o.rest) :
    outcomesOfRounds lazily body (n + 1) s = outcomesOfRounds lazily body (k + 1) s := by
  have hmore : (body s).flatMap (Outcome.further (outcomesOfRounds lazily body n)) =
      (body s).flatMap (Outcome.further (outcomesOfRounds lazily body k)) := by
    refine List.flatMap_congr fun o ho => ?_
    unfold Outcome.further
    by_cases hempty : o.text = []
    · simp [hempty]
    · rw [h o ho hempty]
  simp only [outcomesOfRounds, hmore]

theorem outcomesOfRounds_nil (h : ∀ s, ∀ o ∈ body s, o.text ++ o.rest = s) (n : Nat) :
    outcomesOfRounds lazily body n [] = [.stay []] := by
  cases n with
  | zero => rfl
  | succ n =>
    have hmore : (body []).flatMap (Outcome.further (outcomesOfRounds lazily body n)) = [] := by
      refine List.flatMap_eq_nil_iff.2 fun o ho => ?_
      have hempty := (List.append_eq_nil_iff.1 (h [] o ho)).1
      simp [Outcome.further, hempty]
    cases lazily <;> simp [outcomesOfRounds, hmore]

/-- More rounds than characters change nothing. -/
theorem outcomesOfRounds_eq_of_le (h : ∀ s, ∀ o ∈ body s, o.text ++ o.rest = s) {n k : Nat}
    (hn : s.length ≤ n) (hk : s.length ≤ k) :
    outcomesOfRounds lazily body n s = outcomesOfRounds lazily body k s := by
  induction n generalizing k s with
  | zero =>
    rw [List.length_eq_zero_iff.1 (Nat.le_zero.1 hn), outcomesOfRounds_nil h,
      outcomesOfRounds_nil h]
  | succ n ih =>
    cases k with
    | zero =>
      rw [List.length_eq_zero_iff.1 (Nat.le_zero.1 hk), outcomesOfRounds_nil h,
        outcomesOfRounds_nil h]
    | succ k =>
      refine outcomesOfRounds_succ_congr fun o ho hne => ih ?_ ?_ <;>
      · have hlen := congrArg List.length (h s o ho)
        have hpos := List.length_pos_iff.2 hne
        rw [List.length_append] at hlen
        omega

/-- An outcome leaves the end of a text as it is. -/
def Outcome.leaves (b : List Char) (o : Outcome) : Bool := b.length ≤ o.rest.length

/-- Two functions agree on texts without and with an end. -/
def CutsTo (b : List Char) (next : List Char → List Outcome) : Prop :=
  ∀ w, (next w).map (·.extend b) = (next (w ++ b)).filter (Outcome.leaves b)

theorem CutsTo.map_andThen {next : List Char → List Outcome} (h : CutsTo b next) (o : Outcome) :
    ((next o.rest).map o.andThen).map (·.extend b) =
      ((next (o.extend b).rest).map (o.extend b).andThen).filter (Outcome.leaves b) := by
  have hleft : ((next o.rest).map o.andThen).map (·.extend b) =
      ((next o.rest).map (·.extend b)).map o.andThen := by
    rw [List.map_map, List.map_map]
    rfl
  rw [hleft, h, List.filter_map]
  rfl

/-- What goes on behind an outcome that reaches into the end reaches into it too. -/
theorem filter_leaves_map_andThen {os : List Outcome} (h : o.leaves b = false)
    (hle : ∀ o' ∈ os, o'.rest.length ≤ o.rest.length) :
    (os.map o.andThen).filter (Outcome.leaves b) = [] := by
  unfold Outcome.leaves at *
  rw [decide_eq_false_iff_not] at h
  simp only [List.filter_eq_nil_iff, List.forall_mem_map, Outcome.andThen, decide_eq_true_eq]
  intro o' ho'
  have := hle o' ho'
  omega

theorem map_extend_flatMap {os os' : List Outcome} {f : Outcome → List Outcome}
    (hos : os.map (·.extend b) = os'.filter (Outcome.leaves b))
    (hf : ∀ o, (f o).map (·.extend b) = (f (o.extend b)).filter (Outcome.leaves b))
    (hnot : ∀ o ∈ os', o.leaves b = false → (f o).filter (Outcome.leaves b) = []) :
    (os.flatMap f).map (·.extend b) = (os'.flatMap f).filter (Outcome.leaves b) := by
  have hcut := flatMap_filter_of_nil (f := fun o => (f o).filter (Outcome.leaves b)) hnot
  rw [List.filter_flatMap, ← hcut, ← hos, List.flatMap_map, List.map_flatMap]
  exact List.flatMap_congr fun o _ => hf o

theorem cutsTo_outcomesOfRounds (hbody : ∀ s, ∀ o ∈ body s, o.text ++ o.rest = s)
    (h : CutsTo b body) (n : Nat) : CutsTo b (outcomesOfRounds lazily body n) := by
  have hstay : ∀ w, (Outcome.stay w).extend b = Outcome.stay (w ++ b) := fun w => rfl
  have hleaves : ∀ w, (Outcome.stay (w ++ b)).leaves b = true := fun w => by
    simp [Outcome.stay, Outcome.leaves]
  induction n with
  | zero =>
    intro w
    simp [outcomesOfRounds, hstay, hleaves]
  | succ n ih =>
    intro w
    have hmore := map_extend_flatMap (f := Outcome.further (outcomesOfRounds lazily body n)) (h w)
      (fun o => ?_) fun o ho hnot => ?_
    · cases lazily <;> simp [outcomesOfRounds, hmore, hstay, hleaves]
    · unfold Outcome.further
      by_cases hempty : o.text = []
      · simp [hempty, Outcome.extend]
      · rw [if_neg (by simpa using hempty), if_neg (by simpa [Outcome.extend] using hempty)]
        exact ih.map_andThen o
    · unfold Outcome.further
      split
      · rfl
      · refine filter_leaves_map_andThen hnot fun o' ho' => ?_
        rw [← text_append_rest_of_mem_rounds hbody ho', List.length_append]
        omega

/-- **The outcomes of a text without its end** are those that leave the end as it is. -/
theorem outcomes_append (hp : p.isAnchored = false) (b : List Char) : CutsTo b p.outcomes := by
  induction p with
  | empty =>
    intro w
    simp [outcomes, Outcome.stay, Outcome.extend, Outcome.leaves]
  | char test =>
    intro w
    cases w with
    | nil =>
      -- a character of the end would be matched
      cases b with
      | nil => rfl
      | cons x b =>
        cases hx : test x <;> simp [outcomes, hx, Outcome.leaves]
    | cons x w => cases hx : test x <;> simp [outcomes, hx, Outcome.extend, Outcome.leaves]
  | seq p q ihp ihq =>
    obtain ⟨hp, hq⟩ := Bool.or_eq_false_iff.1 hp
    intro w
    refine map_extend_flatMap (ihp hp w) (fun o => (ihq hq).map_andThen o) fun o ho hnot => ?_
    exact filter_leaves_map_andThen hnot fun o' ho' => length_rest_le ho'
  | alt p q ihp ihq =>
    obtain ⟨hp, hq⟩ := Bool.or_eq_false_iff.1 hp
    intro w
    simp only [outcomes, List.map_append, List.filter_append, ihp hp w, ihq hq w]
  | star lazily p ih =>
    intro w
    have hbody : ∀ s, ∀ o ∈ p.outcomes s, o.text ++ o.rest = s := fun _ _ ho => text_append_rest ho
    rw [outcomes, outcomes, ← cutsTo_outcomesOfRounds hbody (ih hp)]
    refine congrArg _ (outcomesOfRounds_eq_of_le hbody (Nat.le_refl _) ?_)
    rw [List.length_append]
    omega
  | group name p ih =>
    intro w
    rw [outcomes, outcomes, List.filter_map, List.map_map]
    show _ = ((p.outcomes (w ++ b)).filter (Outcome.leaves b)).map _
    rw [← ih hp w, List.map_map]
    rfl
  | atStart => cases hp
  | atEnd => cases hp

/-- A match that leaves the end of a text is the match without that end too. -/
theorem first?_of_extend (hp : p.isAnchored = false) (h : p.first? (w ++ b) = some (o.extend b)) :
    p.first? w = some o := by
  have hcut := outcomes_append hp b w
  unfold first? at h ⊢
  obtain ⟨os, hos⟩ := List.head?_eq_some_iff.1 h
  have hleaves : (o.extend b).leaves b = true := by simp [Outcome.extend, Outcome.leaves]
  rw [hos, List.filter_cons_of_pos hleaves] at hcut
  obtain ⟨o', os', hw, ho', -⟩ := List.map_eq_cons_iff.1 hcut
  rw [hw, List.head?_cons]
  obtain ⟨htext, hrest, hgroups⟩ := Outcome.ext_iff.1 ho'
  exact congrArg some (Outcome.ext htext (List.append_cancel_right hrest) hgroups)

/-- A pattern does not reach into an end that starts with a character it does not allow. -/
theorem first?_append_cons (hp : p.isAnchored = false) (hx : p.allows x = false)
    (w b : List Char) : p.first? (w ++ x :: b) = (p.first? w).map (·.extend (x :: b)) := by
  have hleaves : ∀ o ∈ p.outcomes (w ++ x :: b), o.leaves (x :: b) = true := fun o ho => by
    unfold Outcome.leaves
    rcases List.append_eq_append_iff.1 (text_append_rest ho) with ⟨v, -, hrest⟩ | ⟨v, htext, hrest⟩
    · rw [hrest, List.length_append, decide_eq_true_iff]
      omega
    · cases v with
      | nil => exact decide_eq_true (Nat.le_of_eq (congrArg List.length hrest))
      | cons y v =>
        obtain ⟨rfl, -⟩ := List.cons.inj hrest
        rw [allows_of_mem_text ho (by simp [htext])] at hx
        cases hx
  unfold first?
  rw [← List.filter_eq_self.2 hleaves, ← outcomes_append hp, List.head?_map]

/-! ## Matches in a text -/

/-- Matches are what counts at some place. -/
theorem standsIn_iff (hp : p.isAnchored = false) {text : List Char} :
    m.StandsIn p text ↔ ∃ a s o, text = a ++ s ∧ p.first? s = some o ∧ o.toMatch a = m := by
  constructor
  · rintro ⟨a, b, heq, -, -, -, hm⟩
    rw [matchAt_between hp, Option.map_eq_some_iff] at hm
    obtain ⟨o, ho, hm⟩ := hm
    exact ⟨a, _, o, heq, ho, hm⟩
  · rintro ⟨a, s, o, rfl, ho, hm⟩
    refine (standsIn_of_matchAt ?_).2
    rw [matchAt_between hp, ho, Option.map_some, hm]

/-- A match has no groups but those of its pattern. -/
theorem Match.StandsIn.group?_eq_none {text : List Char} (h : m.StandsIn p text)
    (hp : p.isAnchored = false) {name : String} (hname : name ∉ p.groupNames) :
    m.group? name = none := by
  obtain ⟨a, s, o, -, ho, rfl⟩ := (standsIn_iff hp).1 h
  rw [Match.group?, Option.map_eq_none_iff, List.find?_eq_none]
  intro g hg heq
  have hin := (allows_and_groupNames (mem_outcomes_of_first? ho)).2 g hg
  rw [beq_iff_eq.1 heq] at hin
  exact hname hin

end Gazetteer.Pattern
