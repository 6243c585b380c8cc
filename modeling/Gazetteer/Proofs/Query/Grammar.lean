import Gazetteer.Proofs.Query.Expression

/-!
# Phrases and the yard

A phrase is a sequence of tokens that stands for an expression. `NOT` binds tightest and `OR`
loosest, and what binds equally is joined from the left; the level of a phrase is an operator that
binds at least as loosely as any outside of its parentheses.

The yard takes a phrase as its level promises (`foldlM_push_phrase`): nothing that waits below is
touched, all that waits on top afterwards binds at least as tightly as the level, and applying it
gives the steps of the expression. At the end of the text nothing is left to wait, so the steps of a
phrase are those of its expression (`postfixOf_phrase`).
-/

namespace Gazetteer.Query

/-- The tokens stand for the expression, and outside of parentheses every operator in them binds at
least as tightly as the level. -/
inductive Phrase : Operator → Expr → List Token → Prop where
  | word {w : String} {p : Predicate} (hp : Predicate.ofWord w = .ok p) :
    Phrase .not (.test p) [.word w]
  | group {e : Expr} {ts : List Token} : Phrase .or e ts → Phrase .not e (.open :: ts ++ [.close])
  | not {e : Expr} {ts : List Token} : Phrase .not e ts → Phrase .not (.not e) (.op .not :: ts)
  | and {a b : Expr} {ts us : List Token} : Phrase .and a ts → Phrase .not b us →
    Phrase .and (.and a b) (ts ++ .op .and :: us)
  | or {a b : Expr} {ts us : List Token} : Phrase .or a ts → Phrase .and b us →
    Phrase .or (.or a b) (ts ++ .op .or :: us)
  | ofNot {e : Expr} {ts : List Token} : Phrase .not e ts → Phrase .and e ts
  | ofAnd {e : Expr} {ts : List Token} : Phrase .and e ts → Phrase .or e ts

/-- A word must be a predicate. -/
def Token.IsValid : Token → Prop
  | .word w => ∃ p, Predicate.ofWord w = .ok p
  | _ => True

theorem Phrase.isValid {level : Operator} {e : Expr} {ts : List Token} (h : Phrase level e ts) :
    ∀ t ∈ ts, t.IsValid := by
  induction h with
  | @word w p hp => exact List.forall_mem_singleton.2 ⟨p, hp⟩
  | group _ ih =>
    exact List.forall_mem_append.2
      ⟨List.forall_mem_cons.2 ⟨trivial, ih⟩, List.forall_mem_singleton.2 trivial⟩
  | not _ ih => exact List.forall_mem_cons.2 ⟨trivial, ih⟩
  | and _ _ iha ihb => exact List.forall_mem_append.2 ⟨iha, List.forall_mem_cons.2 ⟨trivial, ihb⟩⟩
  | or _ _ iha ihb => exact List.forall_mem_append.2 ⟨iha, List.forall_mem_cons.2 ⟨trivial, ihb⟩⟩
  | ofNot _ ih => exact ih
  | ofAnd _ ih => exact ih

/-! ## Operators that wait -/

/-- The steps of operators that wait, the latest first, once they are applied. -/
def applied (ops : List Operator) (steps : List Step) : List Step :=
  (ops.map Step.apply).reverse ++ steps

theorem applied_cons (o : Operator) (ops : List Operator) (steps : List Step) :
    applied (o :: ops) steps = applied ops (.apply o :: steps) := by
  simp [applied]

theorem applied_concat (ops : List Operator) (o : Operator) (steps : List Step) :
    applied (ops ++ [o]) steps = .apply o :: applied ops steps := by
  simp [applied]

/-- Operators that pass the test are applied down to the first thing that waits and does not. -/
theorem applyWhile_append {test : Operator → Bool} {ops : List Operator} {pending : List Pending}
    (hops : ∀ o ∈ ops, test o = true)
    (hpending : ∀ o, pending.head? = some (.op o) → test o = false) (steps : List Step) :
    applyWhile test steps (ops.map .op ++ pending) = (applied ops steps, pending) := by
  induction ops generalizing steps with
  | nil =>
    rw [List.map_nil, List.nil_append]
    unfold applyWhile
    split
    · rename_i o rest
      rw [if_neg (by rw [hpending o rfl]; exact Bool.false_ne_true)]
      rfl
    · rfl
  | cons o ops ih =>
    rw [List.map_cons, List.cons_append, applyWhile, if_pos (hops o List.mem_cons_self),
      ih fun o' ho' => hops o' (List.mem_cons_of_mem o ho'), applied_cons]

/-- `AND` and `OR` first apply what waits and binds at least as tightly. -/
theorem push_operator {o : Operator} (ho : o ≠ .not) {ops : List Operator} {pending : List Pending}
    (hops : ∀ o' ∈ ops, o.precedence ≤ o'.precedence)
    (hpending : ∀ o', pending.head? = some (.op o') → o'.precedence < o.precedence)
    (steps : List Step) :
    Yard.push ⟨steps, ops.map .op ++ pending⟩ (.op o) =
      .ok ⟨applied ops steps, .op o :: pending⟩ := by
  have happly := applyWhile_append (fun o' ho' => decide_eq_true (hops o' ho'))
    (fun o' ho' => decide_eq_false (Nat.not_le.2 (hpending o' ho'))) steps
  cases o with
  | not => exact absurd rfl ho
  | and => simp only [Yard.push, happly]
  | or => simp only [Yard.push, happly]

/-- A parenthesis applies all that waits behind the one that it closes. -/
theorem push_close {ops : List Operator} {steps : List Step} {start : Nat}
    (hsteps : (applied ops steps).length ≠ start) (pending : List Pending) :
    Yard.push ⟨steps, ops.map .op ++ .group start :: pending⟩ .close =
      .ok ⟨applied ops steps, pending⟩ := by
  have happly : applyWhile (fun _ => true) steps (ops.map .op ++ .group start :: pending) =
      (applied ops steps, .group start :: pending) :=
    applyWhile_append (fun _ _ => rfl) (fun _ ho => by cases ho) steps
  simp only [Yard.push, happly]
  rw [if_neg hsteps.symm]

/-! ## Phrases in the yard -/

/-- What a phrase makes of a yard: on top of what waited there before wait operators that bind at
least as tightly as the level; with them applied, the steps are those of the expression. -/
def Yard.Takes (y : Yard) (level : Operator) (e : Expr) (y' : Yard) : Prop :=
  ∃ ops : List Operator, y'.pending = ops.map .op ++ y.pending ∧
    (∀ o ∈ ops, level.precedence ≤ o.precedence) ∧
    applied ops y'.steps = e.steps.reverse ++ y.steps

/-- A level may be loosened. -/
theorem Yard.Takes.loosen {y y' : Yard} {level level' : Operator} {e : Expr}
    (h : y.Takes level e y') (hl : level'.precedence ≤ level.precedence) : y.Takes level' e y' := by
  obtain ⟨ops, hpending, hops, hsteps⟩ := h
  exact ⟨ops, hpending, fun o ho => Nat.le_trans hl (hops o ho), hsteps⟩

/-- An operator waits for its last operand, which is taken on top of it. -/
theorem Yard.Takes.under {y y' : Yard} {o level : Operator} {e b : Expr} {steps : List Step}
    (h : Yard.Takes ⟨steps, .op o :: y.pending⟩ level b y')
    (hlevel : o.precedence ≤ level.precedence)
    (he : e.steps.reverse ++ y.steps = .apply o :: (b.steps.reverse ++ steps)) :
    y.Takes o e y' := by
  obtain ⟨ops, hpending, hops, hsteps⟩ := h
  refine ⟨ops ++ [o], ?_, ?_, ?_⟩
  · rw [hpending, List.map_append, List.append_assoc]
    rfl
  · intro o' ho'
    rcases List.mem_append.1 ho' with h | h
    · exact Nat.le_trans hlevel (hops o' h)
    · exact Nat.le_of_eq (congrArg Operator.precedence (List.mem_singleton.1 h).symm)
  · rw [applied_concat, hsteps, he]

/-- A yard takes what an operator joins if it takes both of its operands, the second one on top of
the operator. -/
theorem exists_takes_join {o : Operator} (ho : o ≠ .not) {a b e : Expr} {ts us : List Token}
    {level : Operator} (he : e.steps = a.steps ++ b.steps ++ [.apply o])
    (hlevel : o.precedence ≤ level.precedence) {y : Yard}
    (hy : ∀ o', y.pending.head? = some (.op o') → o'.precedence < o.precedence)
    (ha : ∃ y', ts.foldlM Yard.push y = .ok y' ∧ y.Takes o a y')
    (hb : ∀ y₁ : Yard, y₁.pending.head? = some (.op o) →
      ∃ y', us.foldlM Yard.push y₁ = .ok y' ∧ y₁.Takes level b y') :
    ∃ y', (ts ++ .op o :: us).foldlM Yard.push y = .ok y' ∧ y.Takes o e y' := by
  obtain ⟨⟨steps₁, pending₁⟩, hts, ops₁, hpending₁, hops₁, hsteps₁⟩ := ha
  dsimp only at hpending₁ hsteps₁
  have hpush : Yard.push ⟨steps₁, pending₁⟩ (.op o) =
      .ok ⟨a.steps.reverse ++ y.steps, .op o :: y.pending⟩ := by
    rw [hpending₁, push_operator ho hops₁ hy, hsteps₁]
  obtain ⟨y₂, hus, htakes⟩ := hb ⟨a.steps.reverse ++ y.steps, .op o :: y.pending⟩ rfl
  refine ⟨y₂, ?_, htakes.under hlevel ?_⟩
  · rw [foldlM_append_of_eq_ok hts, foldlM_cons_of_eq_ok hpush, hus]
  · rw [he]
    simp

/-- A yard takes a phrase, unless what waits on top would be applied in the middle of it. -/
theorem foldlM_push_phrase {level : Operator} {e : Expr} {ts : List Token}
    (h : Phrase level e ts) (y : Yard)
    (hy : level ≠ .not → ∀ o, y.pending.head? = some (.op o) → o.precedence < level.precedence) :
    ∃ y', ts.foldlM Yard.push y = .ok y' ∧ y.Takes level e y' := by
  induction h generalizing y with
  | @word w p hp =>
    refine ⟨⟨.test p :: y.steps, y.pending⟩, ?_, [], rfl, nofun, rfl⟩
    have hpush : y.push (.word w) = .ok ⟨.test p :: y.steps, y.pending⟩ := by
      rw [Yard.push, bind_of_eq_ok hp]
      rfl
    rw [foldlM_cons_of_eq_ok hpush]
    rfl
  | @group e ts _ ih =>
    -- what waited before is below the parenthesis, where no operator of the group reaches it
    obtain ⟨⟨steps, pending⟩, hts, ops, hpending, -, hsteps⟩ :=
      ih ⟨y.steps, .group y.steps.length :: y.pending⟩ fun _ => nofun
    dsimp only at hpending hsteps
    have hlength : (applied ops steps).length ≠ y.steps.length := by
      have := List.length_pos_iff.2 e.steps_ne_nil
      rw [hsteps, List.length_append, List.length_reverse]
      omega
    have hopen : y.push .open = .ok ⟨y.steps, .group y.steps.length :: y.pending⟩ := rfl
    refine ⟨⟨applied ops steps, y.pending⟩, ?_, [], rfl, nofun, hsteps⟩
    rw [List.cons_append, foldlM_cons_of_eq_ok hopen, foldlM_append_of_eq_ok hts, hpending,
      foldlM_cons_of_eq_ok (push_close hlength y.pending)]
    rfl
  | not _ ih =>
    obtain ⟨y', hts, htakes⟩ := ih ⟨y.steps, .op .not :: y.pending⟩ fun hne => absurd rfl hne
    refine ⟨y', hts, htakes.under (Nat.le_refl _) ?_⟩
    rw [Expr.steps]
    simp
  | and _ _ iha ihb =>
    have hy := hy (by decide)
    exact exists_takes_join (by decide) rfl (by decide) hy (iha y fun _ => hy) fun y₁ _ =>
      ihb y₁ fun hne => absurd rfl hne
  | or _ _ iha ihb =>
    have hy := hy (by decide)
    -- the second operand is on top of `OR`, which binds more loosely than anything in it
    refine exists_takes_join (by decide) rfl (by decide) hy (iha y fun _ => hy) fun y₁ h₁ =>
      ihb y₁ fun _ o ho => ?_
    rw [h₁] at ho
    cases ho
    decide
  | ofNot _ ih =>
    obtain ⟨y', hts, htakes⟩ := ih y fun hne => absurd rfl hne
    exact ⟨y', hts, htakes.loosen (by decide)⟩
  | ofAnd _ ih =>
    obtain ⟨y', hts, htakes⟩ := ih y fun _ o ho => Nat.lt_trans (hy (by decide) o ho) (by decide)
    exact ⟨y', hts, htakes.loosen (by decide)⟩

/-- The steps of a phrase are those of its expression. -/
theorem postfixOf_phrase {e : Expr} {ts : List Token} (h : Phrase .or e ts) :
    postfixOf ts = .ok e.steps := by
  obtain ⟨⟨steps, pending⟩, hts, ops, hpending, -, hsteps⟩ := foldlM_push_phrase h {} fun _ => nofun
  dsimp only at hpending hsteps
  have happly : applyWhile (fun _ => true) steps (ops.map .op ++ []) = (applied ops steps, []) :=
    applyWhile_append (fun _ _ => rfl) (fun _ ho => by cases ho) steps
  rw [postfixOf, bind_of_eq_ok hts, Yard.finish, hpending, happly, hsteps]
  simp

/-- A text whose tokens are a phrase is compiled into the steps of its expression. -/
theorem compile_phrase {text : String} {e : Expr} {ts : List Token}
    (hts : tokens (quoteAtoms text.toList) = .ok ts) (he : Phrase .or e ts) :
    compile text = .ok ⟨text, e.steps⟩ := by
  rw [compile, bind_of_eq_ok hts, bind_of_eq_ok (postfixOf_phrase he),
    bind_of_eq_ok (checkArity_steps e)]
  rfl

end Gazetteer.Query
