import Mathlib.Data.List.TakeWhile

/-!
# Runs and flat maps

A run of members that pass a test ends in front of the first one that does not. So a list is cut
between a run and what follows it in one way only (`append_inj_of_head`), and what stands behind a
member that fails is out of reach of the run in front (`takeWhile_append_stop`).
-/

namespace Gazetteer

/-! ## Runs -/

section Runs

variable {α : Type} {p : α → Bool} {a : α} {run run' rest rest' : List α}

theorem takeWhile_of_head (hrest : ∀ a ∈ rest.head?, p a = false) : rest.takeWhile p = [] := by
  cases rest with
  | nil => rfl
  | cons a rest => exact List.takeWhile_cons_of_neg (by simp [hrest a rfl])

theorem dropWhile_of_head (hrest : ∀ a ∈ rest.head?, p a = false) : rest.dropWhile p = rest := by
  cases rest with
  | nil => rfl
  | cons a rest => exact List.dropWhile_cons_of_neg (by simp [hrest a rfl])

theorem takeWhile_run (hrun : ∀ a ∈ run, p a = true) (hrest : ∀ a ∈ rest.head?, p a = false) :
    (run ++ rest).takeWhile p = run := by
  rw [List.takeWhile_append_of_pos hrun, takeWhile_of_head hrest, List.append_nil]

theorem dropWhile_run (hrun : ∀ a ∈ run, p a = true) (hrest : ∀ a ∈ rest.head?, p a = false) :
    (run ++ rest).dropWhile p = rest := by
  rw [List.dropWhile_append_of_pos hrun, dropWhile_of_head hrest]

/-- What follows a run does not start with a member that passes. -/
theorem of_mem_head?_dropWhile {as : List α} (h : a ∈ (as.dropWhile p).head?) : p a = false := by
  have hnot := List.head?_dropWhile_not p as
  rw [Option.mem_def.1 h] at hnot
  simpa using hnot

theorem append_inj_of_head (hrun : ∀ a ∈ run, p a = true) (hrun' : ∀ a ∈ run', p a = true)
    (hrest : ∀ a ∈ rest.head?, p a = false) (hrest' : ∀ a ∈ rest'.head?, p a = false)
    (h : run ++ rest = run' ++ rest') : run = run' ∧ rest = rest' := by
  have htake := takeWhile_run hrun hrest
  have hdrop := dropWhile_run hrun hrest
  rw [h] at htake hdrop
  exact ⟨htake.symm.trans (takeWhile_run hrun' hrest'),
    hdrop.symm.trans (dropWhile_run hrun' hrest')⟩

section Behind

variable (hrest : ∀ a ∈ rest.head?, p a = false) (as : List α)
include hrest

theorem takeWhile_append_stop : (as ++ rest).takeWhile p = as.takeWhile p := by
  induction as with
  | nil => exact takeWhile_of_head hrest
  | cons a as ih => rw [List.cons_append, List.takeWhile_cons, List.takeWhile_cons, ih]

theorem dropWhile_append_stop : (as ++ rest).dropWhile p = as.dropWhile p ++ rest := by
  induction as with
  | nil => exact dropWhile_of_head hrest
  | cons a as ih =>
    rw [List.cons_append, List.dropWhile_cons, List.dropWhile_cons, ih]
    split <;> rfl

end Behind

end Runs

/-! ## Flat maps -/

/-- Members that add nothing can be left out. -/
theorem flatMap_filter_of_nil {α β : Type} {f : α → List β} {keep : α → Bool} {as : List α}
    (h : ∀ a ∈ as, keep a = false → f a = []) : (as.filter keep).flatMap f = as.flatMap f := by
  induction as with
  | nil => rfl
  | cons a as ih =>
    obtain ⟨ha, has⟩ := List.forall_mem_cons.1 h
    rw [List.flatMap_cons, ← ih has]
    cases hkeep : keep a with
    | false => simp [hkeep, ha hkeep]
    | true => simp [hkeep]

end Gazetteer
