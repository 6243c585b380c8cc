import Gazetteer.Query.Basic

/-!
# Expressions and their steps

An expression is what a query means, without its parentheses: a tree of predicates and operators.
Its steps are the operands' steps and then the operator. Such steps need no more on the stack than
what they put there themselves, and leave one value, which is that of the expression (`run_steps`).
-/

namespace Gazetteer.Query

/-- Predicates, combined by operators. -/
inductive Expr where
  | test (p : Predicate)
  | not (a : Expr)
  | and (a b : Expr)
  | or (a b : Expr)
  deriving DecidableEq, Repr

namespace Expr

/-- The steps of an expression: those of its operands, in their order, and then its operator. -/
def steps : Expr → List Step
  | test p => [.test p]
  | not a => a.steps ++ [.apply .not]
  | and a b => a.steps ++ b.steps ++ [.apply .and]
  | or a b => a.steps ++ b.steps ++ [.apply .or]

/-- The value of an expression, given those of the predicates. -/
def value (truth : Predicate → Bool) : Expr → Bool
  | test p => truth p
  | not a => !a.value truth
  | and a b => a.value truth && b.value truth
  | or a b => a.value truth || b.value truth

theorem steps_ne_nil (e : Expr) : e.steps ≠ [] := by
  cases e <;> simp [steps]

end Expr

/-! ## Folds that do not fail -/

section Folds

variable {ε α β : Type} {f : β → α → Except ε β} {a b : β}

theorem foldlM_cons_of_eq_ok {x : α} (h : f a x = .ok b) (xs : List α) :
    (x :: xs).foldlM f a = xs.foldlM f b := by
  rw [List.foldlM_cons, bind_of_eq_ok h]

theorem foldlM_append_of_eq_ok {xs : List α} (h : xs.foldlM f a = .ok b) (ys : List α) :
    (xs ++ ys).foldlM f a = ys.foldlM f b := by
  rw [List.foldlM_append, bind_of_eq_ok h]

end Folds

/-! ## Running steps -/

theorem run_append (truth : Predicate → Bool) (ss ss' : List Step) (stack : List Bool) :
    run truth (ss ++ ss') stack = (run truth ss stack).bind (run truth ss') :=
  List.foldlM_append

/-- The steps of an expression put its value on the stack and leave the rest as it is. -/
theorem run_steps (truth : Predicate → Bool) (e : Expr) (stack : List Bool) :
    run truth e.steps stack = some (e.value truth :: stack) := by
  induction e generalizing stack with
  | test p => rfl
  | not a ih =>
    rw [Expr.steps, run_append, ih]
    rfl
  | and a b iha ihb =>
    rw [Expr.steps, run_append, run_append, iha, Option.bind_some, ihb]
    rfl
  | or a b iha ihb =>
    rw [Expr.steps, run_append, run_append, iha, Option.bind_some, ihb]
    rfl

/-- An operator of two operands makes the stack lower by one. -/
theorem depthAfter_apply {o : Operator} (ho : o ≠ .not) (depth : Nat) :
    depthAfter (depth + 2) (.apply o) = .ok (depth + 1) := by
  cases o with
  | not => exact absurd rfl ho
  | and => rfl
  | or => rfl

theorem foldlM_depthAfter_binary {a b : Expr} {o : Operator} (ho : o ≠ .not) {depth : Nat}
    (ha : a.steps.foldlM depthAfter depth = .ok (depth + 1))
    (hb : b.steps.foldlM depthAfter (depth + 1) = .ok (depth + 2)) :
    (a.steps ++ b.steps ++ [Step.apply o]).foldlM depthAfter depth = .ok (depth + 1) := by
  rw [List.append_assoc, foldlM_append_of_eq_ok ha, foldlM_append_of_eq_ok hb,
    foldlM_cons_of_eq_ok (depthAfter_apply ho depth)]
  rfl

/-- The steps of an expression make the stack higher by one. -/
theorem foldlM_depthAfter_steps (e : Expr) (depth : Nat) :
    e.steps.foldlM depthAfter depth = .ok (depth + 1) := by
  induction e generalizing depth with
  | test p => rfl
  | not a ih =>
    rw [Expr.steps, foldlM_append_of_eq_ok (ih depth)]
    rfl
  | and a b iha ihb => exact foldlM_depthAfter_binary (by decide) (iha depth) (ihb (depth + 1))
  | or a b iha ihb => exact foldlM_depthAfter_binary (by decide) (iha depth) (ihb (depth + 1))

theorem checkArity_steps (e : Expr) : checkArity e.steps = .ok () := by
  rw [checkArity, bind_of_eq_ok (foldlM_depthAfter_steps e 0)]
  rfl

theorem Predicate.holds_eq_marker_and (notes : Notes) (p : Predicate) (layer : Layer) :
    p.holds notes layer = (layer.marker?.isSome && p.holds notes layer) := by
  cases layer <;> rfl

/-- A query with the steps of an expression matches the layers for which the expression is true. -/
theorem isMatch_of_steps_eq {q : Query} {e : Expr} (h : q.steps = e.steps) (notes : Notes)
    (layer : Layer) :
    q.isMatch notes layer =
      e.value fun p => layer.marker?.isSome && p.holds notes layer := by
  have hne : q.steps.isEmpty = false := by
    rw [h]
    exact Bool.eq_false_iff.2 fun he => e.steps_ne_nil (List.isEmpty_iff.1 he)
  unfold isMatch
  rw [hne, h, run_steps, Bool.false_or]
  simp only [← Predicate.holds_eq_marker_and]

end Gazetteer.Query
