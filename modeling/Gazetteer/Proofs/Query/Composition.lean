import Gazetteer.Proofs.Query.Counting
import Gazetteer.Proofs.Query.Quotes

/-!
# Queries made of queries

Whatever has been accepted can be put between parentheses and used as an operand, even where it does
not follow the grammar: the yard takes a group as it takes a single word (`foldlM_push_group`), and
steps that pass the arity check put one value on any stack and leave the rest as it is
(`exists_run_of_checkArity`). So queries compose as their texts do (`compile_composed`).
-/

namespace Gazetteer.Query

/-! ## Groups in the yard -/

/-- What waits, with some more steps in front of all that there are. -/
def Pending.behind (n : Nat) : Pending → Pending
  | .op o => .op o
  | .group start => .group (start + n)

/-- A yard on top of another one. -/
def Yard.over (y base : Yard) : Yard :=
  ⟨y.steps ++ base.steps, y.pending.map (Pending.behind base.steps.length) ++ base.pending⟩

section Over

variable {base : Yard} (hbase : ∀ o, base.pending.head? ≠ some (.op o))

include hbase

/-- Operators are applied down to the other yard and no further. -/
theorem applyWhile_over (test : Operator → Bool) (steps : List Step) (pending : List Pending) :
    applyWhile test (steps ++ base.steps)
        (pending.map (Pending.behind base.steps.length) ++ base.pending) =
      ((applyWhile test steps pending).1 ++ base.steps,
        (applyWhile test steps pending).2.map (Pending.behind base.steps.length) ++
          base.pending) := by
  have hstop : ∀ (steps : List Step) (rest : List Pending),
      (∀ o, rest.head? = some (.op o) → test o = false) →
      applyWhile test steps rest = (steps, rest) := fun steps rest hrest =>
    @applyWhile_append test [] rest nofun hrest steps
  fun_induction applyWhile test steps pending with
  | case1 steps o pending ho ih =>
    rw [List.map_cons, List.cons_append, Pending.behind, applyWhile, if_pos ho, ← List.cons_append,
      ih]
  | case2 steps o pending ho =>
    refine hstop _ _ fun o' ho' => ?_
    cases ho'
    exact Bool.eq_false_iff.2 ho
  | case3 steps pending hne =>
    refine hstop _ _ fun o ho => ?_
    cases pending with
    | nil => exact absurd ho (hbase o)
    | cons p pending =>
      cases p with
      | op o' => exact absurd rfl (hne o' pending)
      | group start => cases ho

theorem Yard.push_over {y y' : Yard} {t : Token} (h : y.push t = .ok y') :
    (y.over base).push t = .ok (y'.over base) := by
  cases t with
  | word w =>
    obtain ⟨p, hp, h⟩ := exists_of_bind_eq_ok h
    cases h
    rw [Yard.push, bind_of_eq_ok hp]
    rfl
  | «open» =>
    cases h
    simp only [Yard.push, Yard.over, List.length_append]
    rfl
  | op o =>
    cases o with
    | not =>
      cases h
      rfl
    | and =>
      cases h
      simp only [Yard.push, Yard.over, applyWhile_over hbase]
      rfl
    | or =>
      cases h
      simp only [Yard.push, Yard.over, applyWhile_over hbase]
      rfl
  | close =>
    simp only [Yard.push, Yard.over, applyWhile_over hbase] at h ⊢
    split at h
    · rename_i steps start pending happly
      split at h
      · cases h
      · rename_i hstart
        cases h
        rw [happly]
        simp only [List.map_cons, List.cons_append, Pending.behind, List.length_append]
        rw [if_neg (by omega)]
    · cases h

theorem foldlM_push_over {ts : List Token} {y y' : Yard} (h : ts.foldlM Yard.push y = .ok y') :
    ts.foldlM Yard.push (y.over base) = .ok (y'.over base) := by
  induction ts generalizing y with
  | nil =>
    cases h
    rfl
  | cons t ts ih =>
    rw [List.foldlM_cons] at h
    obtain ⟨y₁, hpush, h⟩ := exists_of_bind_eq_ok h
    rw [foldlM_cons_of_eq_ok (Yard.push_over hbase hpush)]
    exact ih h

end Over

/-- A group puts its steps down and leaves what waits as it is. -/
theorem foldlM_push_group {ts : List Token} {steps : List Step} (h : postfixOf ts = .ok steps)
    (hne : steps ≠ []) (y : Yard) :
    (groupOf ts).foldlM Yard.push y =
      .ok ⟨steps.reverse ++ y.steps, y.pending⟩ := by
  obtain ⟨⟨steps', pending⟩, hfold, hfinish⟩ := exists_of_bind_eq_ok h
  obtain ⟨ops, hpending, happlied⟩ := Yard.exists_ops_of_finish hfinish
  dsimp only at hpending happlied
  subst hpending
  let base : Yard := ⟨y.steps, .group y.steps.length :: y.pending⟩
  have hopen : y.push .open = .ok ((⟨[], []⟩ : Yard).over base) := rfl
  have hbase : ∀ o, base.pending.head? ≠ some (.op o) := fun o => nofun
  have hbody : ts.foldlM Yard.push (Yard.over {} base) =
      .ok (Yard.over ⟨steps', ops.map .op⟩ base) := foldlM_push_over hbase hfold
  have hover : Yard.over ⟨steps', ops.map .op⟩ base =
      ⟨steps' ++ y.steps, ops.map .op ++ .group y.steps.length :: y.pending⟩ := by
    simp [Yard.over, base, Pending.behind, Function.comp_def]
  have hsteps : applied ops (steps' ++ y.steps) = steps.reverse ++ y.steps := by
    rw [← happlied, applied, applied, List.append_assoc]
  have hlength : (applied ops (steps' ++ y.steps)).length ≠ y.steps.length := by
    have := List.length_pos_iff.2 hne
    rw [hsteps, List.length_append, List.length_reverse]
    omega
  rw [groupOf, foldlM_cons_of_eq_ok hopen, foldlM_append_of_eq_ok hbody, hover,
    foldlM_cons_of_eq_ok (push_close hlength y.pending), hsteps]
  rfl

section Joining

variable {ts us : List Token} {ss ss' : List Step} (hts : postfixOf ts = .ok ss) (hss : ss ≠ [])

include hts hss

theorem postfixOf_not_group :
    postfixOf (.op .not :: groupOf ts) = .ok (ss ++ [.apply .not]) := by
  have hnot : Yard.push {} (.op .not) = .ok ⟨[], [.op .not]⟩ := rfl
  have hfold : (.op .not :: groupOf ts).foldlM Yard.push {} =
      .ok ⟨ss.reverse ++ [], [.op .not]⟩ := by
    rw [foldlM_cons_of_eq_ok hnot, foldlM_push_group hts hss]
  rw [postfixOf, bind_of_eq_ok hfold]
  simp [Yard.finish, applyWhile]

theorem postfixOf_join_groups {o : Operator} (ho : o ≠ .not) (hus : postfixOf us = .ok ss')
    (hss' : ss' ≠ []) :
    postfixOf (groupOf ts ++ .op o :: groupOf us) = .ok (ss ++ ss' ++ [.apply o]) := by
  have hjoin : Yard.push ⟨ss.reverse ++ [], []⟩ (.op o) =
      .ok ⟨ss.reverse ++ [], [.op o]⟩ :=
    @push_operator o ho [] [] nofun (fun _ h => by cases h) (ss.reverse ++ [])
  have hfold : (groupOf ts ++ .op o :: groupOf us).foldlM Yard.push {} =
      .ok ⟨ss'.reverse ++ (ss.reverse ++ []), [.op o]⟩ := by
    rw [foldlM_append_of_eq_ok (foldlM_push_group hts hss {}), foldlM_cons_of_eq_ok hjoin,
      foldlM_push_group hus hss']
  rw [postfixOf, bind_of_eq_ok hfold]
  simp [Yard.finish, applyWhile]

end Joining

/-! ## Steps on top of other values -/

theorem depthAfter_add {s : Step} {depth depth' : Nat} (h : depthAfter depth s = .ok depth')
    (below : Nat) : depthAfter (depth + below) s = .ok (depth' + below) := by
  have hbinary : ∀ o : Operator,
      (if 2 ≤ depth then .ok (depth - 1) else .error (.missingOperand o)) =
        (.ok depth' : Except Fault Nat) →
      (if 2 ≤ depth + below then .ok (depth + below - 1) else .error (.missingOperand o)) =
        (.ok (depth' + below) : Except Fault Nat) := by
    intro o h
    split at h
    · rename_i hdepth
      cases h
      rw [if_pos (Nat.le_add_right_of_le hdepth),
        Nat.sub_add_comm (Nat.le_trans (by decide) hdepth)]
    · cases h
  cases s with
  | test p =>
    cases h
    rw [depthAfter, Nat.add_right_comm]
  | apply o =>
    cases o with
    | not =>
      simp only [depthAfter] at h ⊢
      split at h
      · rename_i hdepth
        cases h
        rw [if_pos (Nat.le_add_right_of_le hdepth)]
      · cases h
    | and => exact hbinary .and h
    | or => exact hbinary .or h

theorem foldlM_depthAfter_add {steps : List Step} {depth depth' : Nat}
    (h : steps.foldlM depthAfter depth = .ok depth') (below : Nat) :
    steps.foldlM depthAfter (depth + below) = .ok (depth' + below) := by
  induction steps generalizing depth with
  | nil =>
    cases h
    rfl
  | cons s steps ih =>
    rw [List.foldlM_cons] at h
    obtain ⟨depth₁, hs, h⟩ := exists_of_bind_eq_ok h
    rw [foldlM_cons_of_eq_ok (depthAfter_add hs below)]
    exact ih h

/-- Steps that pass the check leave one value. -/
theorem foldlM_depthAfter_of_checkArity {steps : List Step} (h : checkArity steps = .ok ())
    (hne : steps ≠ []) (depth : Nat) : steps.foldlM depthAfter depth = .ok (depth + 1) := by
  obtain ⟨left, hfold, -⟩ := exists_of_bind_eq_ok h
  have hsum := sum_gain_of_checkArity h hne
  have hleft := (depth_of_foldlM hfold).1
  have hone : left = 1 := by omega
  rw [hone] at hfold
  have hadd := foldlM_depthAfter_add hfold depth
  rwa [Nat.zero_add, Nat.add_comm] at hadd

section Running

variable (value : Predicate → Bool)

/-- A step that finds its operands on the stack reads nothing below them. -/
theorem Step.exists_run {s : Step} {stack : List Bool} {depth : Nat}
    (h : depthAfter stack.length s = .ok depth) :
    ∃ stack', stack'.length = depth ∧
      ∀ below, s.run value (stack ++ below) = some (stack' ++ below) := by
  cases s with
  | test p =>
    cases h
    exact ⟨value p :: stack, rfl, fun _ => rfl⟩
  | apply o =>
    cases o with
    | not =>
      cases stack with
      | nil => cases h
      | cons a rest =>
        cases h
        exact ⟨(!a) :: rest, rfl, fun _ => rfl⟩
    | and =>
      match stack, h with
      | b :: a :: rest, h =>
        cases h
        exact ⟨(a && b) :: rest, rfl, fun _ => rfl⟩
    | or =>
      match stack, h with
      | b :: a :: rest, h =>
        cases h
        exact ⟨(a || b) :: rest, rfl, fun _ => rfl⟩

theorem exists_run {steps : List Step} {stack : List Bool} {depth : Nat}
    (h : steps.foldlM depthAfter stack.length = .ok depth) :
    ∃ stack', stack'.length = depth ∧
      ∀ below, run value steps (stack ++ below) = some (stack' ++ below) := by
  induction steps generalizing stack with
  | nil =>
    cases h
    exact ⟨stack, rfl, fun _ => rfl⟩
  | cons s steps ih =>
    rw [List.foldlM_cons] at h
    obtain ⟨depth₁, hs, h⟩ := exists_of_bind_eq_ok h
    obtain ⟨stack₁, rfl, hrun₁⟩ := Step.exists_run value hs
    obtain ⟨stack', hlength, hrun⟩ := ih h
    refine ⟨stack', hlength, fun below => ?_⟩
    rw [run, List.foldlM_cons, hrun₁ below]
    exact hrun below

/-- Steps that pass the check put one value on the stack, whatever the stack is. -/
theorem exists_run_of_checkArity {steps : List Step} (h : checkArity steps = .ok ())
    (hne : steps ≠ []) : ∃ b, ∀ stack, run value steps stack = some (b :: stack) := by
  have hdepth : steps.foldlM depthAfter ([] : List Bool).length = .ok 1 :=
    foldlM_depthAfter_of_checkArity h hne 0
  obtain ⟨stack', hlength, hrun⟩ := exists_run value hdepth
  obtain ⟨b, rfl⟩ := List.length_eq_one_iff.1 hlength
  exact ⟨b, hrun⟩

end Running

/-! ## Queries -/

theorem exists_of_compile {text : String} {q : Query} (h : compile text = .ok q) :
    ∃ ts, tokens (quoteAtoms text.toList) = .ok ts ∧ postfixOf ts = .ok q.steps ∧
      checkArity q.steps = .ok () := by
  obtain ⟨ts, hts, h⟩ := exists_of_bind_eq_ok h
  obtain ⟨steps, hsteps, h⟩ := exists_of_bind_eq_ok h
  obtain ⟨_, harity, h⟩ := exists_of_bind_eq_ok h
  cases h
  exact ⟨ts, hts, hsteps, harity⟩

theorem compile_of_steps {text : String} {ts : List Token} {steps : List Step}
    (hts : tokens (quoteAtoms text.toList) = .ok ts) (hsteps : postfixOf ts = .ok steps)
    (harity : checkArity steps = .ok ()) : compile text = .ok ⟨text, steps⟩ := by
  rw [compile, bind_of_eq_ok hts, bind_of_eq_ok hsteps, bind_of_eq_ok harity]
  rfl

theorem steps_ne_nil_of_isEmpty {q : Query} (h : q.isEmpty = false) : q.steps ≠ [] := by
  intro hnil
  rw [isEmpty, hnil] at h
  cases h

/-- A layer is matched if its value is left on the stack. -/
theorem isMatch_of_run {q : Query} {b : Bool} {notes : Notes} {layer : Layer}
    (hne : q.steps ≠ [])
    (h : run (fun p => p.holds notes layer) q.steps [] = some [b]) : q.isMatch notes layer = b := by
  have hempty : q.steps.isEmpty = false := Bool.eq_false_iff.2 fun he => hne (List.isEmpty_iff.1 he)
  rw [isMatch, hempty, h, Bool.false_or]

/-- The value that an accepted query has for a layer. -/
theorem run_of_isMatch {text : String} {q : Query} (h : compile text = .ok q)
    (hne : q.isEmpty = false) (notes : Notes) (layer : Layer) (stack : List Bool) :
    run (fun p => p.holds notes layer) q.steps stack = some (q.isMatch notes layer :: stack) := by
  have hsteps := steps_ne_nil_of_isEmpty hne
  obtain ⟨ts, -, -, harity⟩ := exists_of_compile h
  obtain ⟨b, hb⟩ := exists_run_of_checkArity (fun p => p.holds notes layer) harity hsteps
  rw [isMatch_of_run hsteps (hb []), hb]

section Composed

variable {p q : String} {P Q : Query} (hp : compile p = .ok P) (hP : P.isEmpty = false)

include hp hP

theorem compile_negation :
    ∃ no, compile s!"NOT ({p})" = .ok no ∧
      ∀ notes layer, no.isMatch notes layer = !P.isMatch notes layer := by
  have hne := steps_ne_nil_of_isEmpty hP
  obtain ⟨ts, hts, hsteps, harity⟩ := exists_of_compile hp
  have htext : (s!"NOT ({p})").toList = "NOT ".toList ++ grouped p.toList := by
    simp [grouped, toString]
  have hword : tokens (quoteAtoms "NOT ".toList) = .ok [.op .not] := by decide +kernel
  have htokens : tokens (quoteAtoms (s!"NOT ({p})").toList) =
      .ok ([.op .not] ++ groupOf ts) := by
    rw [htext]
    exact tokens_quoteAtoms_append hword (tokens_grouped hts) (by rintro c ⟨⟩; decide)
  have hchecked : checkArity (P.steps ++ [.apply .not]) = .ok () := by
    rw [checkArity, foldlM_append_of_eq_ok (foldlM_depthAfter_of_checkArity harity hne 0)]
    rfl
  refine ⟨_, compile_of_steps htokens (postfixOf_not_group hsteps hne) hchecked, ?_⟩
  intro notes layer
  refine isMatch_of_run (by simp) ?_
  rw [run_append, run_of_isMatch hp hP]
  rfl

variable (hq : compile q = .ok Q) (hQ : Q.isEmpty = false)

include hq hQ

theorem compile_join {o : Operator} (ho : o ≠ .not) (text : String) (word : List Char)
    (htext : text.toList = grouped p.toList ++ (' ' :: word ++ grouped q.toList))
    (hword : tokens (quoteAtoms (' ' :: word)) = .ok [.op o]) :
    compile text = .ok ⟨text, P.steps ++ Q.steps ++ [.apply o]⟩ := by
  have hneP := steps_ne_nil_of_isEmpty hP
  have hneQ := steps_ne_nil_of_isEmpty hQ
  obtain ⟨ts, hts, hsteps, harity⟩ := exists_of_compile hp
  obtain ⟨us, hus, hsteps', harity'⟩ := exists_of_compile hq
  have hback := tokens_quoteAtoms_append hword (tokens_grouped hus) (by rintro c ⟨⟩; decide)
  have htokens := tokens_quoteAtoms_append (tokens_grouped hts) hback (by rintro c ⟨⟩; decide)
  have hchecked : checkArity (P.steps ++ Q.steps ++ [.apply o]) = .ok () := by
    rw [checkArity, List.append_assoc,
      foldlM_append_of_eq_ok (foldlM_depthAfter_of_checkArity harity hneP 0),
      foldlM_append_of_eq_ok (foldlM_depthAfter_of_checkArity harity' hneQ 1),
      foldlM_cons_of_eq_ok (depthAfter_apply ho 0)]
    rfl
  rw [← htext] at htokens
  exact compile_of_steps htokens (postfixOf_join_groups hsteps hneP ho hsteps' hneQ) hchecked

/-- What is accepted can be joined and negated, and matches as it says. -/
theorem compile_composed :
    ∃ both either no, compile s!"({p}) AND ({q})" = .ok both ∧
      compile s!"({p}) OR ({q})" = .ok either ∧ compile s!"NOT ({p})" = .ok no ∧
      ∀ notes layer,
        both.isMatch notes layer = (P.isMatch notes layer && Q.isMatch notes layer) ∧
        either.isMatch notes layer = (P.isMatch notes layer || Q.isMatch notes layer) ∧
        no.isMatch notes layer = !P.isMatch notes layer := by
  have hand := compile_join hp hP hq hQ (o := .and) (by decide) s!"({p}) AND ({q})" "AND ".toList
    (by simp [grouped, toString]) (by decide +kernel)
  have hor := compile_join hp hP hq hQ (o := .or) (by decide) s!"({p}) OR ({q})" "OR ".toList
    (by simp [grouped, toString]) (by decide +kernel)
  obtain ⟨no, hno, hnot⟩ := compile_negation hp hP
  refine ⟨_, _, no, hand, hor, hno, fun notes layer => ⟨?_, ?_, hnot notes layer⟩⟩
  · refine isMatch_of_run (by simp) ?_
    rw [run_append, run_append, run_of_isMatch hp hP, Option.bind_some, run_of_isMatch hq hQ]
    rfl
  · refine isMatch_of_run (by simp) ?_
    rw [run_append, run_append, run_of_isMatch hp hP, Option.bind_some, run_of_isMatch hq hQ]
    rfl

end Composed

/-- An operator behind its operand, and a parenthesis between quotes. -/
theorem compile_composed_behind_operand :
    ∃ p q P Q both either no, p = "tag:a NOT" ∧ q = "path:\"b )\"" ∧
      compile p = .ok P ∧ compile q = .ok Q ∧ compile s!"({p}) AND ({q})" = .ok both ∧
      compile s!"({p}) OR ({q})" = .ok either ∧ compile s!"NOT ({p})" = .ok no ∧
      ∀ notes layer,
        both.isMatch notes layer = (P.isMatch notes layer && Q.isMatch notes layer) ∧
        either.isMatch notes layer = (P.isMatch notes layer || Q.isMatch notes layer) ∧
        no.isMatch notes layer = !P.isMatch notes layer := by
  have hp : compile "tag:a NOT" = .ok ⟨"tag:a NOT", [.test (.tag ⟨"a"⟩), .apply .not]⟩ := by
    decide +kernel
  have hq : compile "path:\"b )\"" = .ok ⟨"path:\"b )\"", [.test (.path "b )")]⟩ := by
    decide +kernel
  obtain ⟨both, either, no, h⟩ := compile_composed hp rfl hq rfl
  exact ⟨_, _, _, _, both, either, no, rfl, rfl, hp, hq, h⟩

end Gazetteer.Query
