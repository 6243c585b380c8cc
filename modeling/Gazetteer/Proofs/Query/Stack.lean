import Gazetteer.Proofs.Query.Composition

/-!
# The stack while a query is evaluated

The check counts what the evaluation has on its stack: a step passes with some depth exactly if it
finds its operands, and then the stack is that high (`Step.toOption_depthAfter`, and
`toOption_foldlM_depthAfter` for many steps). So a machine that goes on with a value of its own
where an operand is missing never makes up a value for an accepted query, and stops with one value
(`stack_of_compile`).
-/

namespace Gazetteer.Query

/-! ## Evaluation without failures -/

/-- Take the upper value from a stack, or `missing` from an empty one. -/
def popOr (missing : Bool) : List Bool → Bool × List Bool
  | [] => (missing, [])
  | a :: rest => (a, rest)

/-- What a step does to the stack if `missing` stands for every operand that is not there. -/
def Step.runOr (missing : Bool) (value : Predicate → Bool) (stack : List Bool) :
    Step → List Bool
  | .test p => value p :: stack
  | .apply .not =>
    let (a, rest) := popOr missing stack
    (!a) :: rest
  | .apply op =>
    -- The right operand was put down last.
    let (b, stack) := popOr missing stack
    let (a, rest) := popOr missing stack
    (if op = .and then a && b else a || b) :: rest

/-- What some steps do to the stack if `missing` stands for every operand that is not there. -/
def runOr (missing : Bool) (value : Predicate → Bool) (steps : List Step) (stack : List Bool) :
    List Bool :=
  steps.foldl (Step.runOr missing value) stack

/-- Whether a layer is matched if `missing` stands for every value that is not there. -/
def isMatchOr (missing : Bool) (notes : Notes) (q : Query) (layer : Layer) : Bool :=
  q.steps.isEmpty || (popOr missing (runOr missing (fun p => p.holds notes layer) q.steps [])).1

/-- How many values a step takes from the stack. -/
def Step.operands : Step → Nat
  | .test _ => 0
  | .apply .not => 1
  | .apply _ => 2

/-! ## One step -/

section Steps

variable {value : Predicate → Bool} {s : Step} {stack stack' : List Bool}

/-- The check and the evaluation agree on a step: whether it can be made, and how high the stack is
then. -/
theorem Step.toOption_depthAfter (value : Predicate → Bool) (s : Step) (stack : List Bool) :
    (depthAfter stack.length s).toOption = (s.run value stack).map List.length := by
  cases s with
  | test p => rfl
  | apply o =>
    match o, stack with
    | .not, [] => rfl
    | .not, a :: rest => rfl
    | .and, [] | .or, [] => rfl
    | .and, [b] | .or, [b] => rfl
    | .and, b :: a :: rest | .or, b :: a :: rest => rfl

/-- A step can be made if its operands are on the stack. -/
theorem Step.isSome_run_iff : (s.run value stack).isSome ↔ s.operands ≤ stack.length := by
  cases s with
  | test p => exact iff_of_true rfl (Nat.zero_le _)
  | apply o =>
    match o, stack with
    | .not, [] | .and, [] | .or, [] | .and, [b] | .or, [b] =>
      simp [Step.run, Step.operands]
    | .not, a :: rest | .and, b :: a :: rest | .or, b :: a :: rest =>
      simp [Step.run, Step.operands]

theorem Step.runOr_of_run (missing : Bool) (h : s.run value stack = some stack') :
    s.runOr missing value stack = stack' := by
  cases s with
  | test p => exact Option.some.inj h
  | apply o =>
    match o, stack, h with
    | .not, a :: rest, h => exact Option.some.inj h
    | .and, b :: a :: rest, h => exact Option.some.inj h
    | .or, b :: a :: rest, h => exact Option.some.inj h

/-! ## Many steps -/

theorem toOption_foldlM_depthAfter (value : Predicate → Bool) (steps : List Step)
    (stack : List Bool) :
    (steps.foldlM depthAfter stack.length).toOption = (run value steps stack).map List.length := by
  induction steps generalizing stack with
  | nil => rfl
  | cons s steps ih =>
    rw [run, List.foldlM_cons, List.foldlM_cons, toOption_bind, Step.toOption_depthAfter value]
    cases s.run value stack with
    | none => rfl
    | some stack₁ => exact ih stack₁

theorem foldlM_depthAfter_of_run {steps : List Step} (h : run value steps stack = some stack') :
    steps.foldlM depthAfter stack.length = .ok stack'.length := by
  have hdepth := toOption_foldlM_depthAfter value steps stack
  rw [h] at hdepth
  cases hfold : steps.foldlM depthAfter stack.length with
  | error e =>
    rw [hfold] at hdepth
    cases hdepth
  | ok depth =>
    rw [hfold] at hdepth
    cases hdepth
    rfl

/-- Where no operand is missing, nothing has to stand for one. -/
theorem runOr_of_run (missing : Bool) {steps : List Step}
    (h : run value steps stack = some stack') : runOr missing value steps stack = stack' := by
  induction steps generalizing stack with
  | nil => exact Option.some.inj h
  | cons s steps ih =>
    rw [run, List.foldlM_cons] at h
    obtain ⟨stack₁, hs, h⟩ := Option.bind_eq_some_iff.1 h
    rw [runOr, List.foldl_cons, Step.runOr_of_run missing hs]
    exact ih h

/-- A run that does not fail has passed every point on its way, and found the operands of the step
behind it. -/
theorem exists_run_of_run_append {before after : List Step}
    (h : run value (before ++ after) stack = some stack') :
    ∃ stack₁, run value before stack = some stack₁ ∧
      ∀ s rest, after = s :: rest → s.operands ≤ stack₁.length := by
  rw [run_append] at h
  obtain ⟨stack₁, hbefore, hafter⟩ := Option.bind_eq_some_iff.1 h
  refine ⟨stack₁, hbefore, ?_⟩
  rintro s rest rfl
  rw [run, List.foldlM_cons] at hafter
  obtain ⟨stack₂, hs, -⟩ := Option.bind_eq_some_iff.1 hafter
  exact Step.isSome_run_iff.1 (Option.isSome_of_eq_some hs)

end Steps

/-! ## Accepted queries -/

/-- **Accepted queries find their operands.** Wherever the evaluation stands, the stack is as high
as the check says and holds the operands of the next step; at the end it holds one value, which is
the result. So whatever stands for the values that are missing, it is never read. -/
theorem stack_of_compile {text : String} {q : Query} (h : compile text = .ok q)
    (hne : q.isEmpty = false) (notes : Notes) (layer : Layer) (missing : Bool) :
    let value : Predicate → Bool := fun p => p.holds notes layer
    (∀ before after, q.steps = before ++ after →
      before.foldlM depthAfter 0 = .ok (runOr missing value before []).length ∧
        run value before [] = some (runOr missing value before []) ∧
        ∀ s rest, after = s :: rest →
          s.operands ≤ (runOr missing value before []).length) ∧
      runOr missing value q.steps [] = [q.isMatch notes layer] ∧
      q.isMatchOr missing notes layer = q.isMatch notes layer := by
  intro value
  have hrun : run value q.steps [] = some [q.isMatch notes layer] :=
    run_of_isMatch h hne notes layer []
  have hend : runOr missing value q.steps [] = [q.isMatch notes layer] := runOr_of_run missing hrun
  have hempty : q.steps.isEmpty = false := hne
  refine ⟨fun before after hsteps => ?_, hend, ?_⟩
  · rw [hsteps] at hrun
    obtain ⟨stack, hbefore, hnext⟩ := exists_run_of_run_append hrun
    rw [runOr_of_run missing hbefore]
    exact ⟨foldlM_depthAfter_of_run hbefore, hbefore, hnext⟩
  · rw [isMatchOr, hempty, hend]
    rfl

theorem stack_of_compile_nested :
    ∃ q, compile "NOT (tag:a OR name:b) AND path:c" = .ok q ∧ q.isEmpty = false ∧
      ∀ notes layer missing, q.isMatchOr missing notes layer = q.isMatch notes layer := by
  have hq : compile "NOT (tag:a OR name:b) AND path:c" =
      .ok ⟨"NOT (tag:a OR name:b) AND path:c", [.test (.tag ⟨"a"⟩), .test (.name "b"),
        .apply .or, .apply .not, .test (.path "c"), .apply .and]⟩ := by
    decide +kernel
  exact ⟨_, hq, rfl, fun notes layer missing => (stack_of_compile hq rfl notes layer missing).2.2⟩

end Gazetteer.Query
