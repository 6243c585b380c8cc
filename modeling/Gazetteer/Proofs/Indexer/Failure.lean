import Gazetteer.Proofs.Indexer.Update

/-!
# Updates that cannot be prepared

Only the update of a single file can fail, because the file is indexed and cannot be read or holds
no layers that can be made (`prepare_eq_error_iff`). The failure leaves everything as it was but the
generation, which has gone up, so no update that waits can be applied any more, although none was
prepared that would take its place. From the next preparation on, successful or not, the session
goes on as if the failed one had not been, with generations that are one higher
(`run_prepare_of_error`): sessions do not depend on how their generations are numbered, as long as
the numbers stay apart and go up by one (`step_renumber`).
-/

namespace Gazetteer

variable {x : Indexer} {notes : Notes} {scope : UpdateScope} {p : PendingUpdate} {e : Error}

/-! ## Why a preparation fails -/

namespace Indexer

theorem rebuild_eq_error_iff {source : SourceRef} :
    x.rebuild notes source = .error e ↔
      x.config.indexes source.extension = true ∧ x.build notes source = .error e ∧
        ∀ text, e ≠ .notFound text := by
  unfold rebuild buildIndexed
  cases x.config.indexes source.extension with
  | false => simp [pure, Except.pure]
  | true =>
    rw [if_pos rfl]
    cases x.build notes source with
    | ok built => simp
    | error e' => cases e' <;> simp [eq_comm (b := e)] <;> rintro rfl <;> simp

/-- A preparation fails only for a file that is indexed, with the error of making its layers. -/
theorem prepare_eq_error_iff :
    (x.prepare notes scope).2 = .error e ↔
      ∃ source, scope = .file source ∧ x.config.indexes source.extension = true ∧
        x.build notes source = .error e ∧ ∀ text, e ≠ .notFound text := by
  cases scope with
  | full => simp [prepare]
  | removal source => simp [prepare]
  | file source =>
    have hmap :
        (x.prepare notes (.file source)).2 = .error e ↔ x.rebuild notes source = .error e := by
      show (x.advance.rebuild notes source).map _ = _ ↔ _
      rw [rebuild_congr_settings (x := x.advance) (y := x) rfl rfl]
      cases x.rebuild notes source <;> simp [Except.map]
    rw [hmap, rebuild_eq_error_iff]
    constructor
    · exact fun h => ⟨source, rfl, h⟩
    · rintro ⟨_, ⟨⟩, h⟩
      exact h

/-! ## Generations that are numbered in another way -/

def renumber (f : Nat → Nat) (x : Indexer) : Indexer :=
  { x with generation := f x.generation }

end Indexer

def PendingUpdate.renumber (f : Nat → Nat) (p : PendingUpdate) : PendingUpdate :=
  { p with generation := f p.generation }

namespace Indexer

variable {f : Nat → Nat}

theorem prepare_renumber (hf : f (x.generation + 1) = f x.generation + 1) :
    ((x.renumber f).prepare notes scope).2 =
      (x.prepare notes scope).2.map (PendingUpdate.renumber f) := by
  have hg : (x.renumber f).advance.generation = f x.advance.generation := hf.symm
  have hstate : ∀ source ls, (x.renumber f).advance.stateWith notes source ls =
      x.advance.stateWith notes source ls := fun _ _ => rfl
  have hindex : (x.renumber f).advance.index = x.advance.index := rfl
  have hconfig : (x.renumber f).advance.config = x.advance.config := rfl
  have hrules : (x.renumber f).advance.rules = x.advance.rules := rfl
  cases scope with
  | full =>
    have hall : (x.renumber f).advance.buildAll notes = x.advance.buildAll notes :=
      buildAll_congr_settings hconfig hrules notes
    simp only [prepare, prepareFull, layersIn, hall, hg, Except.map, PendingUpdate.renumber]
  | removal source =>
    simp only [prepare, prepareRemoval, hstate, hindex, hg, Except.map, PendingUpdate.renumber]
  | file source =>
    have hsame : (x.renumber f).advance.rebuild notes source = x.advance.rebuild notes source :=
      rebuild_congr_settings hconfig hrules notes source
    simp only [prepare, prepareFile, hsame]
    cases x.advance.rebuild notes source with
    | error e => rfl
    | ok built => simp only [Except.map, fileUpdate, hstate, hindex, hg, PendingUpdate.renumber]

theorem apply_renumber (hf : Function.Injective f) :
    (x.renumber f).apply (p.renumber f) =
      ((x.apply p).map fun done => { done with indexer := done.indexer.renumber f }).mapError
        fun _ => .staleUpdate (f p.generation) (f x.generation) := by
  by_cases hg : p.generation = x.generation
  · have hg' : (p.renumber f).generation = (x.renumber f).generation := congrArg f hg
    cases hn : p.next with
    | none =>
      have hn' : (p.renumber f).next = none := hn
      rw [apply_of_next_eq_none hg hn, apply_of_next_eq_none hg' hn']
      rfl
    | some next =>
      have hn' : (p.renumber f).next = some next := hn
      rw [apply_of_next_eq_some hg hn, apply_of_next_eq_some hg' hn']
      rfl
  · have hg' : (p.renumber f).generation ≠ (x.renumber f).generation := hf.ne hg
    rw [apply_of_ne hg, apply_of_ne hg']
    rfl

end Indexer

namespace Session

variable {s : Session} {f : Nat → Nat} {a : Action} {as : List Action}

def renumber (f : Nat → Nat) (s : Session) : Session :=
  { s with indexer := s.indexer.renumber f, pending := s.pending.map (PendingUpdate.renumber f) }

/-- Updates whose generations keep their numbers stay as they are. -/
theorem map_renumber_eq_self {ps : List PendingUpdate}
    (h : ∀ p ∈ ps, f p.generation = p.generation) : ps.map (PendingUpdate.renumber f) = ps := by
  refine (List.map_congr_left fun p hp => ?_).trans ps.map_id
  unfold PendingUpdate.renumber
  rw [h p hp]
  rfl

/-- One preparation in two sessions, where the generations are numbered in two ways. -/
theorem step_prepare_eq_renumber {t : Session} (hnotes : t.notes = s.notes)
    (hevents : t.events = s.events) (hindexer : t.indexer.advance = s.indexer.advance.renumber f)
    (hpending : t.pending = s.pending.map (PendingUpdate.renumber f))
    (hprepare : (t.indexer.prepare t.notes scope).2 =
      (s.indexer.prepare s.notes scope).2.map (PendingUpdate.renumber f)) :
    t.step (.prepare scope) = (s.step (.prepare scope)).renumber f := by
  cases hp : (s.indexer.prepare s.notes scope).2 with
  | ok p =>
    rw [hp] at hprepare
    rw [step_prepare_of_ok hp, step_prepare_of_ok hprepare]
    simp only [renumber, hnotes, hevents, hindexer, hpending, List.map_append, List.map_cons,
      List.map_nil]
  | error e =>
    rw [hp] at hprepare
    rw [step_prepare_of_error hp, step_prepare_of_error hprepare]
    simp only [renumber, hnotes, hevents, hindexer, hpending]

/-- What happens in a session does not depend on how generations are numbered. -/
theorem step_renumber (hinj : Function.Injective f)
    (hf : f (s.indexer.generation + 1) = f s.indexer.generation + 1) (a : Action) :
    (s.renumber f).step a = (s.step a).renumber f := by
  cases a with
  | edit notes => rfl
  | prepare scope =>
    have hadvance : (s.indexer.renumber f).advance = s.indexer.advance.renumber f := by
      unfold Indexer.renumber Indexer.advance
      simp only [hf]
    exact step_prepare_eq_renumber rfl rfl hadvance rfl (Indexer.prepare_renumber hf)
  | apply k =>
    have hwait : (s.renumber f).pending[k]? = (s.pending[k]?).map (PendingUpdate.renumber f) :=
      List.getElem?_map
    have hrest : (s.renumber f).pending.eraseIdx k =
        (s.pending.eraseIdx k).map (PendingUpdate.renumber f) :=
      List.eraseIdx_map ..
    have hindexer : (s.renumber f).indexer = s.indexer.renumber f := rfl
    cases hk : s.pending[k]? with
    | none =>
      rw [hk, Option.map_none] at hwait
      simp only [step, hwait, hk]
    | some p =>
      have happly := Indexer.apply_renumber (x := s.indexer) (p := p) hinj
      rw [hk, Option.map_some] at hwait
      cases ha : s.indexer.apply p with
      | ok done =>
        rw [ha] at happly
        simp only [step, hwait, hk, hrest, hindexer, happly, ha]
        rfl
      | error e =>
        rw [ha] at happly
        simp only [step, hwait, hk, hrest, hindexer, happly, ha]
        rfl

/-- So does a run in which the generations go up by one. -/
theorem run_renumber (hinj : Function.Injective f)
    (hf : ∀ n, s.indexer.generation ≤ n → f (n + 1) = f n + 1) (as : List Action) :
    (s.renumber f).run as = (s.run as).renumber f := by
  induction as generalizing s with
  | nil => rfl
  | cons a as ih =>
    have hle : s.indexer.generation ≤ (s.step a).indexer.generation := by
      rw [generation_step]
      exact Nat.le_add_right _ _
    show ((s.renumber f).step a).run as = ((s.step a).run as).renumber f
    rw [step_renumber hinj (hf _ (Nat.le_refl _)), ih fun n hn => hf n (hle.trans hn)]

/-! ## After a failure -/

/-- The numbers of generations where those after the `n`-th are one higher. -/
def shiftAfter (n m : Nat) : Nat := if m ≤ n then m else m + 1

theorem shiftAfter_injective (n : Nat) : Function.Injective (shiftAfter n) := by
  intro a b h
  unfold shiftAfter at h
  split at h <;> split at h <;> omega

theorem shiftAfter_of_le {n m : Nat} (h : m ≤ n) : shiftAfter n m = m := if_pos h

theorem shiftAfter_of_lt {n m : Nat} (h : n < m) : shiftAfter n m = m + 1 :=
  if_neg (Nat.not_le.2 h)

/-- What is prepared one generation later is the same, with a number that is one higher. -/
theorem prepare_advance (x : Indexer) (notes : Notes) (scope : UpdateScope) :
    (x.advance.prepare notes scope).2 =
      (x.prepare notes scope).2.map (PendingUpdate.renumber (shiftAfter x.generation)) := by
  have hsucc : (x.advance.prepare notes scope).2 =
      (x.prepare notes scope).2.map (PendingUpdate.renumber (· + 1)) :=
    Indexer.prepare_renumber rfl
  rw [hsucc]
  cases hp : (x.prepare notes scope).2 with
  | error e => rfl
  | ok p =>
    have hlt : x.generation < p.generation := by
      rw [Indexer.generation_of_prepare hp]
      exact Nat.lt_succ_self _
    simp only [Except.map, PendingUpdate.renumber, shiftAfter_of_lt hlt]

/-- From the next preparation on, a session goes on as if a failed one had not been, but with
generations that are one higher. -/
theorem Numbered.run_prepare_of_error (h : s.Numbered)
    (hfail : (s.indexer.prepare s.notes scope).2 = .error e) (scope' : UpdateScope)
    (as : List Action) :
    (s.step (.prepare scope)).run (.prepare scope' :: as) =
      (s.run (.prepare scope' :: as)).renumber (shiftAfter s.indexer.generation) := by
  let f := shiftAfter s.indexer.generation
  have hfirst : (s.step (.prepare scope)).step (.prepare scope') =
      (s.step (.prepare scope')).renumber f := by
    rw [step_prepare_of_error hfail]
    refine step_prepare_eq_renumber rfl rfl ?_ ?_ (prepare_advance ..)
    · show _ = { s.indexer.advance with generation := f (s.indexer.generation + 1) }
      rw [show f (s.indexer.generation + 1) = s.indexer.generation + 2 from
        shiftAfter_of_lt (Nat.lt_succ_self _)]
      rfl
    · -- What waited before keeps its number: it is stale on both sides.
      exact (map_renumber_eq_self fun p hp => shiftAfter_of_le (h.le p hp)).symm
  have hgen : (s.step (.prepare scope')).indexer.generation = s.indexer.generation + 1 :=
    s.generation_step _
  show ((s.step (.prepare scope)).step (.prepare scope')).run as =
    ((s.step (.prepare scope')).run as).renumber f
  rw [hfirst]
  refine run_renumber (shiftAfter_injective _) (fun n hn => ?_) as
  rw [hgen] at hn
  have hlt : s.indexer.generation < n := hn
  rw [shiftAfter_of_lt hlt, shiftAfter_of_lt (hlt.trans (Nat.lt_succ_self n))]

/-- **A failed preparation makes what waits stale and does nothing else.** In a session that an
indexer can come to, let the update of a file fail to be prepared. Then the file is indexed, and its
layers could not be made, for another reason than that it is not there. Nothing changes but the
generation, which goes up by one, so the update that could be applied before is refused, with the
generation that nothing was prepared for, and so is every other one that waits. Whatever is prepared
next, the session then goes on as it would have gone on without the failure, with all generations
from there on one higher. -/
theorem stale_after_failed_preparation (h : s.Reachable) {source : SourceRef}
    (hfail : (s.indexer.prepareFile s.notes source).2 = .error e) :
    let n := s.indexer.generation
    let s' := s.step (.prepare (.file source))
    (s.indexer.config.indexes source.extension = true ∧
        s.indexer.build s.notes source = .error e ∧ ∀ text, e ≠ .notFound text) ∧
      s' = { s with indexer := { s.indexer with generation := n + 1 } } ∧
      (∀ p done, s.indexer.apply p = .ok done →
        s'.indexer.apply p = .error (.staleUpdate n (n + 1))) ∧
      (∀ p ∈ s'.pending, s'.indexer.apply p = .error (.staleUpdate p.generation (n + 1))) ∧
      ∀ scope as, s'.run (.prepare scope :: as) =
        (s.run (.prepare scope :: as)).renumber (shiftAfter n) := by
  intro n s'
  have hprepare : (s.indexer.prepare s.notes (.file source)).2 = .error e := hfail
  have hs' : s' = { s with indexer := s.indexer.advance } := step_prepare_of_error hprepare
  refine ⟨?_, hs', ?_, ?_, h.numbered.run_prepare_of_error hfail⟩
  · obtain ⟨_, ⟨⟩, hcause⟩ := Indexer.prepare_eq_error_iff.1 hprepare
    exact hcause
  · intro p done hdone
    have hg : p.generation = n := Indexer.apply_isOk_iff.1 ⟨done, hdone⟩
    have hne : p.generation ≠ s.indexer.advance.generation := by
      rw [hg]
      exact (Nat.succ_ne_self n).symm
    rw [hs', show n = p.generation from hg.symm]
    exact (Indexer.apply_of_ne hne).trans (by rw [hg]; rfl)
  · intro p hp
    rw [hs'] at hp ⊢
    exact Indexer.apply_of_ne (Nat.ne_of_lt (Nat.lt_succ_of_le (h.numbered.le p hp)))

/-- An update of everything waits, of a note with a place and of a geometry document that is none,
when the update of the document fails. -/
theorem exists_failure :
    ∃ (s : Session) (source : SourceRef) (p : PendingUpdate) (done : Indexer.Applied),
      s.Reachable ∧ s.pending = [p] ∧ p.generation = 1 ∧ s.indexer.apply p = .ok done ∧
        (s.indexer.prepareFile s.notes source).2 =
          .error (.geometry (GeoDocument.Fault.message .notJson)) := by
  let config : Config := { Config.default with extensions := ["md", "geojson"] }
  let store := NoteStore.ofList [("A.md", "[a](geo:1,2)"), ("T.geojson", "\x7b")]
  have hcheck : (Indexer.new config).toOption.any (fun x =>
      decide (((x.advance.prepareFile store.notes ⟨"T.geojson"⟩).2.map fun _ => ()) =
        .error (.geometry (GeoDocument.Fault.message .notJson)))) = true := by
    decide +kernel
  obtain ⟨x, hx, hcheck⟩ := exists_of_any_toOption hcheck
  have hg : (x.prepareFull store.notes).2.generation = 1 := by
    show x.generation + 1 = 1
    rw [(Indexer.new_eq_ok hx).2.2]
  obtain ⟨done, hdone, -⟩ := Indexer.exists_apply_eq_ok (x := x.advance)
    (p := (x.prepareFull store.notes).2) rfl
  refine ⟨(start x store.notes).step (.prepare .full), ⟨"T.geojson"⟩, _, done,
    (Reachable.start hx store.notes).step (.prepare .full), rfl, hg, hdone, ?_⟩
  show (x.advance.prepareFile store.notes ⟨"T.geojson"⟩).2 = _
  cases hp : (x.advance.prepareFile store.notes ⟨"T.geojson"⟩).2 with
  | ok p =>
    rw [hp] at hcheck
    exact nomatch of_decide_eq_true hcheck
  | error e =>
    rw [hp] at hcheck
    exact congrArg Except.error (Except.error.inj (of_decide_eq_true hcheck))

/-- The update that waits is refused, and when everything is prepared again and applied, the same is
reported as without the failure. -/
theorem stale_after_failed_preparation_no_json :
    ∃ (s : Session) (source : SourceRef) (p : PendingUpdate) (done : Indexer.Applied),
      s.Reachable ∧ s.indexer.apply p = .ok done ∧
        (s.step (.prepare (.file source))).indexer.apply p = .error (.staleUpdate 1 2) ∧
          ((s.step (.prepare (.file source))).run [.prepare .full, .apply 1]).events =
            (s.run [.prepare .full, .apply 1]).events := by
  obtain ⟨s, source, p, done, hs, -, hg, hdone, hfail⟩ := exists_failure
  have hcur : s.indexer.generation = 1 := (Indexer.apply_isOk_iff.1 ⟨done, hdone⟩).symm.trans hg
  obtain ⟨-, -, hstale, -, hrun⟩ := stale_after_failed_preparation hs hfail
  refine ⟨s, source, p, done, hs, hdone, ?_, ?_⟩
  · rw [hstale p done hdone, hcur]
  · rw [hrun .full [.apply 1]]
    rfl

/-- An update can be applied; after another one failed to be prepared, it cannot. -/
theorem refused_after_failure :
    ∃ (s : Session) (source : SourceRef) (p : PendingUpdate) (done : Indexer.Applied) (e : Error),
      s.Reachable ∧ p ∈ s.pending ∧ s.indexer.apply p = .ok done ∧
        (s.indexer.prepareFile s.notes source).2 = .error e ∧
          (s.step (.prepare (.file source))).indexer.apply p = .error (.staleUpdate 1 2) := by
  obtain ⟨s, source, p, done, hs, hp, hg, hdone, hfail⟩ := exists_failure
  have hcur : s.indexer.generation = 1 := (Indexer.apply_isOk_iff.1 ⟨done, hdone⟩).symm.trans hg
  refine ⟨s, source, p, done, _, hs, hp ▸ List.mem_singleton_self p, hdone, hfail, ?_⟩
  have hne : p.generation ≠ s.indexer.advance.generation := by
    rw [hg]
    show 1 ≠ s.indexer.generation + 1
    rw [hcur]
    decide
  have hprepare : (s.indexer.prepare s.notes (.file source)).2 = .error _ := hfail
  rw [step_prepare_of_error hprepare]
  refine (Indexer.apply_of_ne hne).trans ?_
  rw [hg]
  show Except.error (Error.staleUpdate 1 (s.indexer.generation + 1)) = _
  rw [hcur]

end Session

end Gazetteer
