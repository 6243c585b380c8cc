import Gazetteer.Indexer.Session
import Gazetteer.Proofs.Layer.Building

/-!
# Generations

Preparing an update gives it the next generation, and only the update with the current generation is
applied. So in every session the updates that wait have increasing generations, none of them above
the current one (`Session.Numbered`), and the one that may be applied is the one prepared last:
since then nothing was prepared, and nothing else can have been applied.
-/

namespace Gazetteer

namespace Indexer

variable {x : Indexer} {notes : Notes} {scope : UpdateScope} {p : PendingUpdate}

/-- A new indexer has an empty index and an empty graph, and has not prepared anything. -/
theorem new_eq_ok {config : Config} (h : Indexer.new config = .ok x) :
    x.index = .empty ∧ x.graph = .empty ∧ x.generation = 0 := by
  obtain ⟨checked, -, hx⟩ := exists_of_bind_eq_ok h
  cases hx
  exact ⟨rfl, rfl, rfl⟩

theorem config_of_new {config : Config} (h : Indexer.new config = .ok x) : x.config = config := by
  obtain ⟨checked, -, hx⟩ := exists_of_bind_eq_ok h
  cases hx
  rfl

/-! ## Preparing and applying -/

/-- Preparing changes nothing but the generation, whether it succeeds or not. -/
theorem prepare_fst (x : Indexer) (notes : Notes) (scope : UpdateScope) :
    (x.prepare notes scope).1 = x.advance := by
  cases scope <;> rfl

theorem prepareFile_eq_ok_iff {source : SourceRef} :
    (x.prepareFile notes source).2 = .ok p ↔
      ∃ ls ds, x.rebuild notes source = .ok (ls, ds) ∧
        p = x.advance.fileUpdate notes source ls ds := by
  unfold prepareFile
  simp only [rebuild_congr_settings (x := x.advance) (y := x) rfl rfl]
  cases x.rebuild notes source with
  | error e => simp [Except.map]
  | ok built =>
    simp only [Except.map, Except.ok.injEq]
    refine ⟨fun h => ⟨built.1, built.2, rfl, h.symm⟩, ?_⟩
    rintro ⟨ls, ds, rfl, rfl⟩
    rfl

theorem generation_of_prepare (h : (x.prepare notes scope).2 = .ok p) :
    p.generation = x.generation + 1 := by
  cases scope with
  | full => cases h; rfl
  | removal source => cases h; rfl
  | file source =>
    obtain ⟨ls, ds, -, rfl⟩ := prepareFile_eq_ok_iff.1 h
    rfl

theorem scope_of_prepare (h : (x.prepare notes scope).2 = .ok p) : p.scope = scope := by
  cases scope with
  | full => cases h; rfl
  | removal source => cases h; rfl
  | file source =>
    obtain ⟨ls, ds, -, rfl⟩ := prepareFile_eq_ok_iff.1 h
    rfl

theorem prepare_full (x : Indexer) (notes : Notes) :
    (x.prepare notes .full).2 = .ok (x.prepareFull notes).2 := rfl

theorem update_eq_ok_iff {done : Applied} :
    x.update notes scope = .ok done ↔
      ∃ p, (x.prepare notes scope).2 = .ok p ∧ x.advance.apply p = .ok done := by
  have hfst := prepare_fst x notes scope
  unfold update
  cases hp : x.prepare notes scope with
  | mk y result =>
    rw [hp] at hfst
    cases hfst
    constructor
    · exact fun h => exists_of_bind_eq_ok h
    · rintro ⟨p, rfl, ha⟩
      exact ha

theorem apply_of_ne (h : p.generation ≠ x.generation) :
    x.apply p = .error (.staleUpdate p.generation x.generation) := by
  unfold apply
  rw [if_pos h]

/-- An update with the current generation is applied. -/
theorem exists_apply_eq_ok (h : p.generation = x.generation) :
    ∃ done, x.apply p = .ok done ∧ done.indexer.generation = x.generation := by
  unfold apply
  rw [if_neg (not_not_intro h)]
  cases p.next with
  | none => exact ⟨_, rfl, rfl⟩
  | some next => exact ⟨_, rfl, rfl⟩

theorem apply_isOk_iff : (∃ done, x.apply p = .ok done) ↔ p.generation = x.generation := by
  refine ⟨?_, fun h => (exists_apply_eq_ok h).imp fun _ h => h.1⟩
  rintro ⟨done, h⟩
  by_cases hg : p.generation = x.generation
  · exact hg
  · rw [apply_of_ne hg] at h
    cases h

theorem generation_of_apply {done : Applied} (h : x.apply p = .ok done) :
    done.indexer.generation = x.generation := by
  obtain ⟨done', h', hg⟩ := exists_apply_eq_ok (apply_isOk_iff.1 ⟨done, h⟩)
  rw [h, Except.ok.injEq] at h'
  rw [h', hg]

/-- An update that can be prepared can be applied at once. -/
theorem exists_update_eq_ok (h : (x.prepare notes scope).2 = .ok p) :
    ∃ done, x.update notes scope = .ok done := by
  obtain ⟨done, ha, -⟩ := exists_apply_eq_ok (x := x.advance) (generation_of_prepare h)
  exact ⟨done, update_eq_ok_iff.2 ⟨p, h, ha⟩⟩

end Indexer

namespace Session

variable {s : Session} {as : List Action} {a : Action} {p : PendingUpdate}

/-! ## What an action does -/

/-- What was prepared waits. -/
theorem step_prepare_of_ok {scope : UpdateScope}
    (h : (s.indexer.prepare s.notes scope).2 = .ok p) :
    s.step (.prepare scope) =
      { s with indexer := s.indexer.advance, pending := s.pending ++ [p] } := by
  have hpair : s.indexer.prepare s.notes scope = (s.indexer.advance, .ok p) :=
    Prod.ext (Indexer.prepare_fst ..) h
  simp only [step, hpair]

theorem step_prepare_of_error {scope : UpdateScope} {e : Error}
    (h : (s.indexer.prepare s.notes scope).2 = .error e) :
    s.step (.prepare scope) = { s with indexer := s.indexer.advance } := by
  have hpair : s.indexer.prepare s.notes scope = (s.indexer.advance, .error e) :=
    Prod.ext (Indexer.prepare_fst ..) h
  simp only [step, hpair]

/-- Preparing advances the indexer; what was prepared waits. -/
theorem step_prepare_cases (s : Session) (scope : UpdateScope) :
    (∃ p, (s.indexer.prepare s.notes scope).2 = .ok p ∧
        s.step (.prepare scope) =
          { s with indexer := s.indexer.advance, pending := s.pending ++ [p] }) ∨
      s.step (.prepare scope) = { s with indexer := s.indexer.advance } := by
  cases hp : (s.indexer.prepare s.notes scope).2 with
  | ok p => exact Or.inl ⟨p, rfl, step_prepare_of_ok hp⟩
  | error e => exact Or.inr (step_prepare_of_error hp)

/-- Applying takes an update from those that wait. A stale one changes nothing else. -/
theorem step_apply_cases (s : Session) (k : Nat) :
    s.step (.apply k) = s ∨
      ∃ p, s.pending[k]? = some p ∧
        (p.generation ≠ s.indexer.generation ∧
            s.step (.apply k) = { s with pending := s.pending.eraseIdx k } ∨
          ∃ done, s.indexer.apply p = .ok done ∧
            s.step (.apply k) =
              { s with
                indexer := done.indexer
                pending := s.pending.eraseIdx k
                events := s.events ++ done.events }) := by
  cases hk : s.pending[k]? with
  | none => exact Or.inl (by simp only [step, hk])
  | some p =>
    refine Or.inr ⟨p, rfl, ?_⟩
    by_cases hg : p.generation = s.indexer.generation
    · obtain ⟨done, hdone, -⟩ := Indexer.exists_apply_eq_ok hg
      exact Or.inr ⟨done, hdone, by simp only [step, hk, hdone]⟩
    · exact Or.inl ⟨hg, by simp only [step, hk, Indexer.apply_of_ne hg]⟩

/-- Preparing an update and applying it at once. -/
theorem run_update {scope : UpdateScope} {done : Indexer.Applied} (hp : s.pending = [])
    (h : s.indexer.update s.notes scope = .ok done) :
    s.run [.prepare scope, .apply 0] = ⟨done.indexer, s.notes, [], s.events ++ done.events⟩ := by
  obtain ⟨p, hprep, ha⟩ := Indexer.update_eq_ok_iff.1 h
  rw [run, List.foldl_cons, step_prepare_of_ok hprep]
  simp only [List.foldl_cons, List.foldl_nil, step, hp, List.nil_append,
    List.getElem?_cons_zero, ha, List.eraseIdx_cons_zero]

theorem generation_step (s : Session) (a : Action) :
    (s.step a).indexer.generation = s.indexer.generation + if a.isPrepare then 1 else 0 := by
  cases a with
  | edit notes => rfl
  | prepare scope =>
    obtain ⟨p, -, h⟩ | h := s.step_prepare_cases scope <;> rw [h] <;> rfl
  | apply k =>
    obtain h | ⟨p, -, ⟨-, h⟩ | ⟨done, hdone, h⟩⟩ := s.step_apply_cases k
    · rw [h]
      rfl
    · rw [h]
      rfl
    · rw [h]
      exact Indexer.generation_of_apply hdone

/-- The generation counts what was prepared, with or without success. -/
theorem generation_run (s : Session) (as : List Action) :
    (s.run as).indexer.generation = s.indexer.generation + as.countP Action.isPrepare := by
  unfold run
  induction as generalizing s with
  | nil => rfl
  | cons a as ih =>
    rw [List.foldl_cons, ih, generation_step, List.countP_cons]
    omega

/-! ## The updates that wait -/

/-- The updates that wait have increasing generations, up to the current one. -/
structure Numbered (s : Session) : Prop where
  increasing : s.pending.Pairwise fun p q => p.generation < q.generation
  le : ∀ p ∈ s.pending, p.generation ≤ s.indexer.generation

theorem numbered_start (x : Indexer) (notes : Notes) : (start x notes).Numbered where
  increasing := List.Pairwise.nil
  le _ h := nomatch h

theorem Numbered.step (h : s.Numbered) (a : Action) : (s.step a).Numbered := by
  have hgen := s.generation_step a
  cases a with
  | edit notes => exact ⟨h.increasing, h.le⟩
  | prepare scope =>
    obtain ⟨p, hp, hs⟩ | hs := s.step_prepare_cases scope
    · have hpg := Indexer.generation_of_prepare hp
      rw [hs]
      refine ⟨List.pairwise_append.2 ⟨h.increasing, List.pairwise_singleton .., ?_⟩, ?_⟩
      · intro q hq p' hp'
        rw [List.mem_singleton.1 hp', hpg]
        exact Nat.lt_succ_of_le (h.le q hq)
      · intro q hq
        rcases List.mem_append.1 hq with hq | hq
        · exact Nat.le_succ_of_le (h.le q hq)
        · rw [List.mem_singleton.1 hq, hpg]
          exact Nat.le_refl _
    · rw [hs]
      exact ⟨h.increasing, fun q hq => Nat.le_succ_of_le (h.le q hq)⟩
  | apply k =>
    have hrest : (s.pending.eraseIdx k).Sublist s.pending := List.eraseIdx_sublist ..
    obtain hs | ⟨p, -, ⟨-, hs⟩ | ⟨done, hdone, hs⟩⟩ := s.step_apply_cases k
    · rwa [hs]
    · rw [hs]
      exact ⟨h.increasing.sublist hrest, fun q hq => h.le q (hrest.subset hq)⟩
    · rw [hs]
      refine ⟨h.increasing.sublist hrest, fun q hq => ?_⟩
      rw [Indexer.generation_of_apply hdone]
      exact h.le q (hrest.subset hq)

theorem Numbered.run (h : s.Numbered) (as : List Action) : (s.run as).Numbered := by
  induction as generalizing s with
  | nil => exact h
  | cons a as ih => exact ih (h.step a)

/-- No two updates that wait have one generation. -/
theorem Numbered.index_unique (h : s.Numbered) {j k : Nat} {q : PendingUpdate}
    (hj : s.pending[j]? = some p) (hk : s.pending[k]? = some q)
    (hg : p.generation = q.generation) : j = k := by
  obtain ⟨hj', rfl⟩ := List.getElem?_eq_some_iff.1 hj
  obtain ⟨hk', rfl⟩ := List.getElem?_eq_some_iff.1 hk
  have hinc := List.pairwise_iff_getElem.1 h.increasing
  rcases Nat.lt_trichotomy j k with hlt | heq | hgt
  · exact absurd hg (Nat.ne_of_lt (hinc j k hj' hk' hlt))
  · exact heq
  · exact absurd hg.symm (Nat.ne_of_lt (hinc k j hk' hj' hgt))

/-- The update that may be applied, if it waits, and the index are in some relation. -/
def Current (s : Session) (Q : PendingUpdate → LayerIndex → Prop) : Prop :=
  ∀ p ∈ s.pending, p.generation = s.indexer.generation → Q p s.indexer.index

/-- What relates an update and the index when it is prepared goes on to relate them as long as the
update may be applied. -/
theorem Numbered.current_step (h : s.Numbered) {Q : PendingUpdate → LayerIndex → Prop}
    (hQ : ∀ scope p, (s.indexer.prepare s.notes scope).2 = .ok p → Q p s.indexer.index)
    (hcur : s.Current Q) (a : Action) : (s.step a).Current Q := by
  cases a with
  | edit notes => exact hcur
  | prepare scope =>
    -- What waited before is stale now.
    have hstale : ∀ q ∈ s.pending, q.generation ≠ s.indexer.advance.generation := fun q hq =>
      Nat.ne_of_lt (Nat.lt_succ_of_le (h.le q hq))
    obtain ⟨p, hp, hs⟩ | hs := s.step_prepare_cases scope
    · rw [hs]
      intro q hq hg
      rcases List.mem_append.1 hq with hq | hq
      · exact absurd hg (hstale q hq)
      · rw [List.mem_singleton.1 hq]
        exact hQ scope p hp
    · rw [hs]
      exact fun q hq hg => absurd hg (hstale q hq)
  | apply k =>
    have hrest : (s.pending.eraseIdx k).Sublist s.pending := List.eraseIdx_sublist ..
    obtain hs | ⟨p, hk, ⟨-, hs⟩ | ⟨done, hdone, hs⟩⟩ := s.step_apply_cases k
    · rwa [hs]
    · rw [hs]
      exact fun q hq => hcur q (hrest.subset hq)
    · rw [hs]
      intro q hq hg
      -- Nothing else that waits has the generation of the update that was applied.
      obtain ⟨j, hj, hjq⟩ := List.mem_eraseIdx_iff_getElem?.1 hq
      rw [Indexer.generation_of_apply hdone, ← Indexer.apply_isOk_iff.1 ⟨done, hdone⟩] at hg
      exact absurd (h.index_unique hjq hk hg) hj

theorem Reachable.numbered (h : s.Reachable) : s.Numbered := by
  induction h with
  | start hx notes => exact numbered_start _ notes
  | step _ a ih => exact ih.step a

/-- So it does in every session. -/
theorem Reachable.current (h : s.Reachable) {Q : PendingUpdate → LayerIndex → Prop}
    (hQ : ∀ (x : Indexer) notes scope p, (x.prepare notes scope).2 = .ok p → Q p x.index) :
    s.Current Q := by
  induction h with
  | start hx notes => exact fun _ hp => nomatch hp
  | step hs a ih => exact hs.numbered.current_step (fun scope p => hQ _ _ scope p) ih a

/-! ## The update prepared last -/

theorem run_append (s : Session) (as bs : List Action) : s.run (as ++ bs) = (s.run as).run bs :=
  List.foldl_append

/-- While nothing is prepared, no other updates come to wait. -/
theorem mem_pending_of_run (hno : ∀ a ∈ as, a.isPrepare = false)
    (hp : p ∈ (s.run as).pending) : p ∈ s.pending := by
  induction as generalizing s with
  | nil => exact hp
  | cons a as ih =>
    have hstep := ih (s := s.step a) (fun b hb => hno b (List.mem_cons_of_mem _ hb)) hp
    have ha := hno a List.mem_cons_self
    cases a with
    | edit notes => exact hstep
    | prepare scope => cases ha
    | apply k =>
      have hrest : (s.pending.eraseIdx k).Sublist s.pending := List.eraseIdx_sublist ..
      obtain hs | ⟨q, -, ⟨-, hs⟩ | ⟨done, -, hs⟩⟩ := s.step_apply_cases k <;> rw [hs] at hstep
      · exact hstep
      · exact hrest.subset hstep
      · exact hrest.subset hstep

/-- While the update with the current generation waits and nothing is prepared, the indexer stays as
it is: what is applied is stale. -/
theorem Numbered.indexer_run (h : s.Numbered) (hno : ∀ a ∈ as, a.isPrepare = false)
    (hp : p ∈ (s.run as).pending) (hg : p.generation = s.indexer.generation) :
    (s.run as).indexer = s.indexer := by
  induction as generalizing s with
  | nil => rfl
  | cons a as ih =>
    have hno' : ∀ b ∈ as, b.isPrepare = false := fun b hb => hno b (List.mem_cons_of_mem _ hb)
    have ha := hno a List.mem_cons_self
    have hwait : p ∈ (s.step a).pending := mem_pending_of_run hno' hp
    have hstep : (s.step a).indexer = s.indexer := by
      cases a with
      | edit notes => rfl
      | prepare scope => cases ha
      | apply k =>
        obtain hs | ⟨q, hq, ⟨-, hs⟩ | ⟨done, hdone, hs⟩⟩ := s.step_apply_cases k
        · rw [hs]
        · rw [hs]
        · -- The update that was applied would be the one that still waits.
          rw [hs] at hwait
          obtain ⟨j, hj, hjp⟩ := List.mem_eraseIdx_iff_getElem?.1 hwait
          have hqg := Indexer.apply_isOk_iff.1 ⟨done, hdone⟩
          exact absurd (h.index_unique hjp hq (hg.trans hqg.symm)) hj
    have hrun := ih (h.step a) hno' hp (by rw [hstep, hg])
    exact hrun.trans hstep

theorem indexer_step_prepare (s : Session) (scope : UpdateScope) :
    (s.step (.prepare scope)).indexer = s.indexer.advance := by
  obtain ⟨p, -, hs⟩ | hs := s.step_prepare_cases scope <;> rw [hs]

/-- So nothing changes between the preparation of an update and its application. -/
theorem Numbered.indexer_run_prepare (h : s.Numbered) {scope : UpdateScope}
    (hprep : (s.indexer.prepare s.notes scope).2 = .ok p) (hno : ∀ a ∈ as, a.isPrepare = false)
    (hp : p ∈ ((s.step (.prepare scope)).run as).pending) :
    ((s.step (.prepare scope)).run as).indexer = s.indexer.advance := by
  have hstep := s.indexer_step_prepare scope
  have hg : p.generation = (s.step (.prepare scope)).indexer.generation := by
    rw [hstep]
    exact Indexer.generation_of_prepare hprep
  rw [(h.step _).indexer_run hno hp hg, hstep]

/-- **An update is applied to what it was built against.** Let an update be prepared in the course
of a session, and wait after more has happened. If anything was prepared since, with or without
success, it is stale: applying it fails with both generations and leaves the indexer and what was
reported as they are. Otherwise it can be applied, and at every moment since it was prepared index
and graph were those that it was built against. Of a session that prepares fewer than `UInt64.size`
times all generations fit 64 bits. -/
theorem stale_or_built_against {config : Config} {x : Indexer} (hx : Indexer.new config = .ok x)
    (notes : Notes) (before between : List Action) (scope : UpdateScope)
    (hcount : (before ++ .prepare scope :: between).countP Action.isPrepare < UInt64.size)
    {p : PendingUpdate}
    (hp : (((start x notes).run before).indexer.prepare
      ((start x notes).run before).notes scope).2 = .ok p)
    {k : Nat}
    (hk : ((start x notes).run (before ++ .prepare scope :: between)).pending[k]? = some p) :
    let s₀ := (start x notes).run before
    let s := (start x notes).run (before ++ .prepare scope :: between)
    (p.generation < UInt64.size ∧ s.indexer.generation < UInt64.size) ∧
      ((∃ a ∈ between, a.isPrepare = true) →
        s.indexer.apply p = .error (.staleUpdate p.generation s.indexer.generation) ∧
          (s.step (.apply k)).indexer = s.indexer ∧ (s.step (.apply k)).events = s.events) ∧
      ((∃ done, s.indexer.apply p = .ok done) ↔ ∀ a ∈ between, a.isPrepare = false) ∧
      (∀ done, s.indexer.apply p = .ok done → ∀ earlier later, between = earlier ++ later →
        let s' := (start x notes).run (before ++ .prepare scope :: earlier)
        s'.indexer.index = s₀.indexer.index ∧ s'.indexer.graph = s₀.indexer.graph) := by
  intro s₀ s
  have hrun : ∀ as, (start x notes).run (before ++ .prepare scope :: as) =
      (s₀.step (.prepare scope)).run as := fun as => run_append ..
  have hpg : p.generation = s₀.indexer.generation + 1 := Indexer.generation_of_prepare hp
  have hg₀ : s₀.indexer.generation = before.countP Action.isPrepare := by
    rw [generation_run, start, (Indexer.new_eq_ok hx).2.2, Nat.zero_add]
  have hg : s.indexer.generation = p.generation + between.countP Action.isPrepare := by
    rw [show s = (s₀.step (.prepare scope)).run between from hrun between, generation_run,
      indexer_step_prepare, hpg]
    rfl
  -- The update is the current one if and only if nothing was prepared since.
  have hcur : p.generation = s.indexer.generation ↔ ∀ a ∈ between, a.isPrepare = false := by
    rw [hg, Nat.left_eq_add, List.countP_eq_zero]
    simp only [Bool.not_eq_true]
  refine ⟨?_, ?_, Indexer.apply_isOk_iff.trans hcur, ?_⟩
  · rw [List.countP_append, List.countP_cons_of_pos rfl] at hcount
    omega
  · rintro ⟨a, ha, hprep⟩
    have hstale := Indexer.apply_of_ne fun h => by
      rw [hcur.1 h a ha] at hprep
      cases hprep
    have hstep : s.step (.apply k) = { s with pending := s.pending.eraseIdx k } := by
      simp only [step, hk, s, hstale]
    rw [hstep]
    exact ⟨hstale, rfl, rfl⟩
  · rintro done hdone earlier later rfl
    have hno := hcur.1 (Indexer.apply_isOk_iff.1 ⟨done, hdone⟩)
    have hlater : ∀ a ∈ later, a.isPrepare = false := fun a ha =>
      hno a (List.mem_append_right _ ha)
    have hwait : p ∈ ((s₀.step (.prepare scope)).run earlier).pending := by
      refine mem_pending_of_run hlater ?_
      rw [← run_append, ← hrun]
      exact List.mem_of_getElem? hk
    have hsame := ((numbered_start x notes).run before).indexer_run_prepare hp
      (fun a ha => hno a (List.mem_append_left _ ha)) hwait
    intro s'
    rw [show s' = (s₀.step (.prepare scope)).run earlier from hrun earlier, hsame]
    exact ⟨rfl, rfl⟩

/-- Of two updates of everything, the first one is stale and the second one indexes the place. -/
theorem stale_of_prepared_twice :
    let notes := (NoteStore.ofList [("A.md", "[a](geo:1,2)")]).notes
    ∃ x, Indexer.new .default = .ok x ∧
      let s := (start x notes).run [.prepare .full, .prepare .full]
      ∃ p q done, s.pending = [p, q] ∧ s.indexer.apply p = .error (.staleUpdate 1 2) ∧
        (s.step (.apply 0)).indexer = s.indexer ∧ (s.step (.apply 0)).events = [] ∧
        s.indexer.apply q = .ok done ∧ done.indexer.index.ids = ["A.md1200"] := by
  intro notes
  have hcheck : (Indexer.new .default).toOption.any (fun x =>
      let s := (start x notes).run [.prepare .full, .prepare .full]
      s.pending[1]?.any fun q => (s.indexer.apply q).toOption.any fun done =>
        decide (done.indexer.index.ids = ["A.md1200"])) = true := by
    decide +kernel
  obtain ⟨x, hx, hcheck⟩ := exists_of_any_toOption hcheck
  let s := (start x notes).run [.prepare .full, .prepare .full]
  let p := (x.prepareFull notes).2
  let q := (x.advance.prepareFull notes).2
  have hg : x.generation = 0 := (Indexer.new_eq_ok hx).2.2
  have hp₁ : p.generation = 1 := congrArg (· + 1) hg
  have hs₂ : s.indexer.generation = 2 := by
    show ((start x notes).run _).indexer.generation = 2
    rw [generation_run, start, hg]
    rfl
  obtain ⟨-, hfirst, -⟩ := stale_or_built_against hx notes [] [.prepare .full] .full
    (by decide) (p := p) rfl (k := 0) rfl
  obtain ⟨hstale, hsame, hevents⟩ := hfirst ⟨.prepare .full, List.mem_singleton_self _, rfl⟩
  obtain ⟨-, -, hsecond, -⟩ := stale_or_built_against hx notes [.prepare .full] [] .full
    (by decide) (p := q) rfl (k := 1) rfl
  obtain ⟨done, hdone⟩ : ∃ done, s.indexer.apply q = .ok done :=
    hsecond.2 (List.forall_mem_nil _)
  have hids : (s.indexer.apply q).toOption.any
      (fun done => decide (done.indexer.index.ids = ["A.md1200"])) = true := hcheck
  rw [hdone] at hids
  refine ⟨x, hx, p, q, done, rfl, hstale.trans ?_, hsame, hevents, hdone, of_decide_eq_true hids⟩
  rw [hp₁, ← hs₂]
  rfl

end Session

end Gazetteer
