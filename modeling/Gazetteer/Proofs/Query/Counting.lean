import Gazetteer.Proofs.Query.Grammar
import Mathlib.Algebra.Ring.Int.Defs

/-!
# What the yard counts

Whatever the tokens are, the yard keeps some counts in step with them. What one token can do is said
once (`Yard.Pushed`): some operators that wait are applied, and then something is put down or, by a
closing parenthesis, taken away. Applying an operator does not change the balance, the number of
values that are left when all that waits is applied, so this is what the tokens add. At the end it
is the depth that the arity check finds.
-/

namespace Gazetteer.Query

/-! ## What pushing a token can do -/

/-- What a token makes of a yard, if it is not refused. -/
inductive Yard.Pushed : Yard → Token → Yard → Prop where
  | word {w : String} {p : Predicate} {steps : List Step} {pending : List Pending}
    (hp : Predicate.ofWord w = .ok p) :
    Pushed ⟨steps, pending⟩ (.word w) ⟨.test p :: steps, pending⟩
  | op {o : Operator} (ops : List Operator) {steps : List Step} {pending : List Pending} :
    Pushed ⟨steps, ops.map .op ++ pending⟩ (.op o) ⟨applied ops steps, .op o :: pending⟩
  | open {steps : List Step} {pending : List Pending} :
    Pushed ⟨steps, pending⟩ .open ⟨steps, .group steps.length :: pending⟩
  | close (ops : List Operator) {steps : List Step} {pending : List Pending} {start : Nat}
    (hstart : start ≠ (applied ops steps).length) :
    Pushed ⟨steps, ops.map .op ++ .group start :: pending⟩ .close ⟨applied ops steps, pending⟩

theorem applyWhile_eq_applied (test : Operator → Bool) (steps : List Step)
    (pending : List Pending) :
    ∃ ops, pending = ops.map .op ++ (applyWhile test steps pending).2 ∧
      (applyWhile test steps pending).1 = applied ops steps := by
  fun_induction applyWhile test steps pending with
  | case1 steps o pending _ ih =>
    obtain ⟨ops, hpending, hsteps⟩ := ih
    exact ⟨o :: ops, congrArg (Pending.op o :: ·) hpending,
      hsteps.trans (applied_cons o ops steps).symm⟩
  | case2 => exact ⟨[], rfl, rfl⟩
  | case3 => exact ⟨[], rfl, rfl⟩

theorem Yard.pushed_of_push {y y' : Yard} {t : Token} (h : y.push t = .ok y') : y.Pushed t y' := by
  obtain ⟨steps, pending⟩ := y
  have hbinary : ∀ (test : Operator → Bool) (o : Operator), Yard.Pushed ⟨steps, pending⟩ (.op o)
      ⟨(applyWhile test steps pending).1, .op o :: (applyWhile test steps pending).2⟩ := by
    intro test o
    obtain ⟨ops, hpending, hsteps⟩ := applyWhile_eq_applied test steps pending
    generalize applyWhile test steps pending = r at hpending hsteps ⊢
    rw [hsteps, hpending]
    exact .op ops
  cases t with
  | word w =>
    obtain ⟨p, hp, h⟩ := exists_of_bind_eq_ok h
    cases h
    exact .word hp
  | «open» =>
    cases h
    exact .open
  | op o =>
    cases o with
    | not =>
      cases h
      exact .op []
    | and =>
      cases h
      exact hbinary _ .and
    | or =>
      cases h
      exact hbinary _ .or
  | close =>
    obtain ⟨ops, hpending, hsteps⟩ := applyWhile_eq_applied (fun _ => true) steps pending
    simp only [Yard.push] at h
    split at h
    · rename_i steps' start rest happly
      rw [happly] at hpending hsteps
      split at h
      · cases h
      · rename_i hstart
        cases h
        dsimp only at hpending hsteps
        subst hpending hsteps
        exact .close ops hstart
    · cases h

/-! ## Counting -/

/-- The number of values that applying an operator takes away. -/
def Operator.cost : Operator → Int
  | .not => 0
  | _ => 1

/-- The number of values that a step adds. -/
def Step.gain : Step → Int
  | .test _ => 1
  | .apply o => -o.cost

/-- The number of values that something that waits will add. -/
def Pending.gain : Pending → Int
  | .op o => -o.cost
  | .group _ => 0

namespace Yard

/-- The number of values that will be left when all that waits is applied. -/
def balance (y : Yard) : Int :=
  (y.steps.map Step.gain).sum + (y.pending.map Pending.gain).sum

/-- The number of parentheses that are open. -/
def nesting (y : Yard) : Nat :=
  y.pending.countP fun | .group _ => true | .op _ => false

/-- The number of open parentheses and of the steps that there will be when all that waits is
applied. -/
def size (y : Yard) : Nat :=
  y.steps.length + y.pending.length

/-- No group starts behind more steps than there are. -/
def GroupsFit (y : Yard) : Prop :=
  ∀ start, .group start ∈ y.pending → start ≤ y.steps.length

variable {ops : List Operator} {steps : List Step} {pending : List Pending}

theorem balance_test {p : Predicate} :
    balance ⟨.test p :: steps, pending⟩ = balance ⟨steps, pending⟩ + 1 := by
  simp only [balance, List.map_cons, List.sum_cons, Step.gain]
  omega

theorem balance_op {o : Operator} :
    balance ⟨steps, .op o :: pending⟩ = balance ⟨steps, pending⟩ - o.cost := by
  simp only [balance, List.map_cons, List.sum_cons, Pending.gain]
  omega

theorem balance_group {start : Nat} :
    balance ⟨steps, .group start :: pending⟩ = balance ⟨steps, pending⟩ := by
  simp only [balance, List.map_cons, List.sum_cons, Pending.gain]
  omega

theorem balance_applied :
    balance ⟨applied ops steps, pending⟩ = balance ⟨steps, ops.map .op ++ pending⟩ := by
  induction ops generalizing steps with
  | nil => rfl
  | cons o ops ih =>
    rw [applied_cons, ih]
    simp only [balance, List.map_cons, List.cons_append, List.sum_cons, Step.gain, Pending.gain]
    omega

theorem size_applied :
    size ⟨applied ops steps, pending⟩ = size ⟨steps, ops.map .op ++ pending⟩ := by
  simp only [size, applied, List.length_append, List.length_reverse, List.length_map]
  omega

theorem nesting_applied :
    nesting ⟨applied ops steps, pending⟩ = nesting ⟨steps, ops.map .op ++ pending⟩ := by
  simp [nesting, List.countP_map, Function.comp_def]

end Yard

/-- The number of values that a token adds. -/
def Token.gain : Token → Int
  | .word _ => 1
  | .op o => -o.cost
  | _ => 0

namespace Yard.Pushed

variable {y y' : Yard} {t : Token}

theorem balance (h : y.Pushed t y') : y'.balance = y.balance + t.gain := by
  cases h with
  | word => exact Yard.balance_test
  | op => rw [Yard.balance_op, Yard.balance_applied, Token.gain, Int.sub_eq_add_neg]
  | «open» =>
    rw [Yard.balance_group]
    exact (Int.add_zero _).symm
  | close =>
    rw [← Yard.balance_applied, Yard.balance_group]
    exact (Int.add_zero _).symm

theorem nesting (h : y.Pushed t y') :
    y'.nesting + (if t = .close then 1 else 0) = y.nesting + (if t = .open then 1 else 0) := by
  cases h with
  | word => rfl
  | op =>
    rw [← Yard.nesting_applied]
    simp [Yard.nesting]
  | «open» => simp [Yard.nesting]
  | close =>
    rw [← Yard.nesting_applied]
    simp [Yard.nesting]

/-- A group starts behind no more steps than there are, so it is not empty when it is closed. -/
theorem size_pos (h : y.Pushed t y') (hy : y.GroupsFit) : 0 < y'.size := by
  cases h with
  | word => exact Nat.add_pos_left (Nat.succ_pos _) _
  | op => exact Nat.add_pos_right _ (Nat.succ_pos _)
  | «open» => exact Nat.add_pos_right _ (Nat.succ_pos _)
  | @close ops steps pending start hstart =>
    have hle : start ≤ steps.length := hy start (by simp)
    simp only [applied, List.length_append, List.length_reverse, List.length_map] at hstart
    simp only [Yard.size, applied, List.length_append, List.length_reverse, List.length_map]
    omega

theorem groupsFit (h : y.Pushed t y') (hy : y.GroupsFit) : y'.GroupsFit := by
  have happlied : ∀ (ops : List Operator) (steps : List Step),
      steps.length ≤ (applied ops steps).length := fun ops steps => by simp [applied]
  intro start hmem
  cases h with
  | @word w p steps pending hp => exact Nat.le_succ_of_le (hy start hmem)
  | @op o ops steps pending =>
    rcases List.mem_cons.1 hmem with h | h
    · cases h
    · exact Nat.le_trans (hy start (List.mem_append_right _ h)) (happlied ops steps)
  | «open» =>
    rcases List.mem_cons.1 hmem with h | h
    · cases h
      exact Nat.le_refl _
    · exact hy start h
  | @close ops steps pending =>
    exact Nat.le_trans (hy start (List.mem_append_right _ (List.mem_cons_of_mem _ hmem)))
      (happlied ops steps)

theorem isValid (h : y.Pushed t y') : t.IsValid := by
  cases h with
  | word hp => exact ⟨_, hp⟩
  | op => trivial
  | «open» => trivial
  | close => trivial

end Yard.Pushed

/-! ## Counts at the end -/

/-- Tokens leave something in the yard. -/
theorem size_pos_of_foldlM_push {us : List Token} {y y' : Yard} (hy : y.GroupsFit)
    (h : us.foldlM Yard.push y = .ok y') (hne : us ≠ []) : 0 < y'.size := by
  induction us generalizing y with
  | nil => exact absurd rfl hne
  | cons u us ih =>
    rw [List.foldlM_cons] at h
    obtain ⟨y₁, hpush, h⟩ := exists_of_bind_eq_ok h
    have hpushed := Yard.pushed_of_push hpush
    cases us with
    | nil =>
      cases h
      exact hpushed.size_pos hy
    | cons v vs => exact ih (hpushed.groupsFit hy) h (List.cons_ne_nil v vs)

/-- At the end only operators wait, and they are applied. -/
theorem Yard.exists_ops_of_finish {y : Yard} {steps : List Step} (h : y.finish = .ok steps) :
    ∃ ops : List Operator, y.pending = ops.map .op ∧ applied ops y.steps = steps.reverse := by
  obtain ⟨ops, hpending, hsteps⟩ := applyWhile_eq_applied (fun _ => true) y.steps y.pending
  unfold Yard.finish at h
  split at h
  · rename_i steps' happly
    rw [happly] at hpending hsteps
    cases h
    exact ⟨ops, hpending.trans (List.append_nil _), by rw [List.reverse_reverse, ← hsteps]⟩
  · cases h

/-- At the end every group is closed, and the counts are those of the steps. -/
theorem Yard.counts_of_finish {y : Yard} {steps : List Step} (h : y.finish = .ok steps) :
    y.nesting = 0 ∧ steps.length = y.size ∧ (steps.map Step.gain).sum = y.balance := by
  obtain ⟨ops, hpending, hsteps⟩ := Yard.exists_ops_of_finish h
  obtain ⟨steps₀, pending⟩ := y
  dsimp only at hpending hsteps
  rw [hpending, ← List.append_nil (ops.map Pending.op), ← Yard.nesting_applied,
    ← Yard.size_applied, ← Yard.balance_applied, hsteps]
  simp [Yard.nesting, Yard.size, Yard.balance, List.sum_reverse]

theorem depthAfter_eq_ok {depth depth' : Nat} {s : Step} (h : depthAfter depth s = .ok depth') :
    (depth' : Int) = depth + s.gain ∧ 0 < depth' := by
  cases s with
  | test p =>
    cases h
    exact ⟨rfl, Nat.succ_pos depth⟩
  | apply o =>
    cases o
    all_goals
      simp only [depthAfter] at h
      split at h
      · cases h
        simp only [Step.gain, Operator.cost]
        omega
      · cases h

/-- Steps whose operators all find their operands leave what they add, and at least one value if
there are any. -/
theorem depth_of_foldlM {steps : List Step} {depth depth' : Nat}
    (h : steps.foldlM depthAfter depth = .ok depth') :
    (depth' : Int) = depth + (steps.map Step.gain).sum ∧ (0 < depth ∨ steps ≠ [] → 0 < depth') := by
  induction steps generalizing depth with
  | nil =>
    cases h
    simp
  | cons s steps ih =>
    rw [List.foldlM_cons] at h
    obtain ⟨depth₁, hs, h⟩ := exists_of_bind_eq_ok h
    obtain ⟨hdepth₁, hpos₁⟩ := depthAfter_eq_ok hs
    obtain ⟨hdepth', hpos'⟩ := ih h
    rw [List.map_cons, List.sum_cons]
    exact ⟨by omega, fun _ => hpos' (.inl hpos₁)⟩

theorem sum_gain_of_checkArity {steps : List Step} (h : checkArity steps = .ok ())
    (hne : steps ≠ []) : (steps.map Step.gain).sum = 1 := by
  obtain ⟨depth, hfold, hdone⟩ := exists_of_bind_eq_ok h
  obtain ⟨hdepth, hpos⟩ := depth_of_foldlM hfold
  have hone := hpos (.inr hne)
  split at hdone
  · omega
  · cases hdone

end Gazetteer.Query
