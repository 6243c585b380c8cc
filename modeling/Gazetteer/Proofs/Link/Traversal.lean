import Gazetteer.Proofs.Link.Relation
import Mathlib.Logic.Relation

/-!
# Walks in any order

`LinkGraph.ofLayers` walks from note to note in one particular order. `Walk.Step` is a walk that is
free to choose: where to start, which of the notes ahead to go to next, and in which order and how
often to follow the links of a note. What a walk has related is what the links of the notes say that
it has been to (`Walk.Explored`), however it went, and it cannot go on for ever
(`Walk.wellFounded_advance`). So all walks that leave no note out relate the
same markers, and the one of `ofLayers` is one of them.
-/

namespace Gazetteer

namespace LinkGraph

variable {notes : Notes} {table : SortedMap SourceRef (List Marker)} {source : SourceRef}
  {w w' : Walk} {a b : String}

namespace Walk

/-- A walk goes on to one of the notes ahead. -/
inductive Advance (notes : Notes) (table : SortedMap SourceRef (List Marker)) : Walk → Walk → Prop
  /-- Pass over a note where the walk was before. -/
  | pass {w : Walk} {source : SourceRef} (hs : source ∈ w.stack) (hu : source ∉ w.unvisited) :
      Advance notes table w { w with stack := w.stack.erase source }
  /-- Visit a note and follow its links in any order, each of them at least once. -/
  | visit {w : Walk} {source : SourceRef} {links : List LinkRef} (hs : source ∈ w.stack)
      (hu : source ∈ w.unvisited)
      (hl : ∀ l, l ∈ links ↔ ∃ o, notes.outline? source = some o ∧ l ∈ o.allLinks) :
      Advance notes table w (links.foldl (follow notes table source)
        { w with
          unvisited := w.unvisited.filter (· != source)
          stack := w.stack.erase source })

/-- One step of a walk that chooses its way. -/
inductive Step (notes : Notes) (table : SortedMap SourceRef (List Marker)) : Walk → Walk → Prop
  /-- Start at a note with markers, whether the walk was there or not. -/
  | start {w : Walk} {source : SourceRef} (hk : source ∈ table.keys) :
      Step notes table w { w with stack := source :: w.stack }
  | advance {w w' : Walk} (h : Advance notes table w w') : Step notes table w w'

/-- Before a walk. -/
def fresh (table : SortedMap SourceRef (List Marker)) : Walk :=
  ⟨table.keys, [], LinkGraph.empty⟩

/-! ## What a walk has related -/

/-- A walk has related what the links of the notes say that it has been to. -/
structure Explored (notes : Notes) (table : SortedMap SourceRef (List Marker)) (w : Walk) :
    Prop where
  subset : ∀ source ∈ w.unvisited, source ∈ table.keys
  contains_iff : ∀ a b, w.graph.contains a b = true ↔
    a ≠ b ∧ ∃ source ∈ table.keys, source ∉ w.unvisited ∧
      ∃ o, notes.outline? source = some o ∧ Relates notes table source o.allLinks a b

theorem explored_fresh : Explored notes table (fresh table) where
  subset _ h := h
  contains_iff a b := by
    rw [fresh, contains_empty]
    constructor
    · intro h
      cases h
    · rintro ⟨-, source, hk, hn, -⟩
      exact absurd hk hn

/-- What is related depends on which links there are. -/
theorem relates_of_mem_iff {links : List LinkRef}
    (hl : ∀ l, l ∈ links ↔ ∃ o, notes.outline? source = some o ∧ l ∈ o.allLinks) :
    Relates notes table source links a b ↔
      ∃ o, notes.outline? source = some o ∧ Relates notes table source o.allLinks a b := by
  constructor
  · rintro ⟨l, hmem, h⟩
    obtain ⟨o, ho, hlo⟩ := (hl l).1 hmem
    exact ⟨o, ho, l, hlo, h⟩
  · rintro ⟨o, ho, l, hlo, h⟩
    exact ⟨l, (hl l).2 ⟨o, ho, hlo⟩, h⟩

theorem Explored.advance (h : Explored notes table w) (ha : Advance notes table w w') :
    Explored notes table w' := by
  cases ha with
  | pass hs hu => exact ⟨h.subset, h.contains_iff⟩
  | @visit source links hs hu hl =>
    refine ⟨fun s hmem => ?_, fun a b => ?_⟩
    · rw [unvisited_foldl_follow] at hmem
      exact h.subset s (List.mem_of_mem_filter hmem)
    · rw [contains_foldl_follow, h.contains_iff, ← and_or_left, relates_of_mem_iff hl,
        unvisited_foldl_follow]
      refine and_congr_right fun _ => ?_
      simp only [List.mem_filter, bne_iff_ne, not_and, not_not]
      constructor
      · rintro (⟨s, hk, hn, hr⟩ | hr)
        · exact ⟨s, hk, fun hm => absurd hm hn, hr⟩
        · exact ⟨source, h.subset source hu, fun _ => rfl, hr⟩
      · rintro ⟨s, hk, hn, hr⟩
        by_cases hm : s ∈ w.unvisited
        · exact Or.inr (hn hm ▸ hr)
        · exact Or.inl ⟨s, hk, hm, hr⟩

theorem Explored.step (h : Explored notes table w) (hs : Step notes table w w') :
    Explored notes table w' := by
  cases hs with
  | start hk => exact ⟨h.subset, h.contains_iff⟩
  | advance ha => exact h.advance ha

theorem Explored.steps (h : Explored notes table w)
    (hs : Relation.ReflTransGen (Step notes table) w w') : Explored notes table w' := by
  induction hs with
  | refl => exact h
  | tail _ hstep ih => exact ih.step hstep

/-- Walks that leave no note out relate the same markers. -/
theorem Explored.contains_congr (h : Explored notes table w) (h' : Explored notes table w')
    (hu : w.unvisited = []) (hu' : w'.unvisited = []) (a b : String) :
    w.graph.contains a b = w'.graph.contains a b := by
  refine Bool.eq_iff_iff.2 ?_
  rw [h.contains_iff, h'.contains_iff, hu, hu']

/-- No walk goes on for ever: each note is visited once at most, and a note that is passed over is
not ahead any longer. -/
theorem wellFounded_advance (notes : Notes) (table : SortedMap SourceRef (List Marker)) :
    WellFounded fun w' w => Advance notes table w w' := by
  let rank (w : Walk) : Nat × Nat := (w.unvisited.length, w.stack.length)
  have hrank : WellFounded (InvImage (Prod.Lex (· < ·) (· < ·)) rank) :=
    InvImage.wf rank (WellFounded.prod_lex Nat.lt_wfRel.wf Nat.lt_wfRel.wf)
  refine Subrelation.wf (fun {w' w} h => ?_) hrank
  cases h with
  | @pass source hs hu =>
    refine Prod.Lex.right _ ?_
    rw [List.length_erase_of_mem hs]
    exact Nat.sub_lt (List.length_pos_of_mem hs) Nat.one_pos
  | @visit source links hs hu hl =>
    refine Prod.Lex.left _ _ ?_
    rw [unvisited_foldl_follow]
    exact List.length_filter_lt_length_iff_exists.2 ⟨source, hu, by simp⟩

/-! ## The walk of the library -/

theorem stack_run (notes : Notes) (table : SortedMap SourceRef (List Marker)) (w : Walk) :
    (w.run notes table).stack = [] := by
  fun_induction run notes table w with
  | case1 w hs => exact hs
  | case2 w source stack hs hu ih => exact ih
  | case3 w source stack hs hu ih => exact ih

/-- To visit the next note is to go on to it. -/
theorem advance_visit {stack : List SourceRef} (hs : w.stack = source :: stack)
    (hu : source ∈ w.unvisited) :
    Advance notes table w (visit notes table source { w with stack }) := by
  have hmem : source ∈ w.stack := hs ▸ List.mem_cons_self
  have hrest : w.stack.erase source = stack := by rw [hs, List.erase_cons_head]
  unfold visit
  rw [← hrest]
  cases ho : notes.outline? source with
  | none =>
    have hlinks : ∀ l, l ∈ [] ↔ ∃ o, notes.outline? source = some o ∧ l ∈ o.allLinks := by simp [ho]
    exact .visit hmem hu hlinks
  | some o => exact .visit hmem hu (by simp [ho])

/-- A walk on until there is nowhere left to go takes such steps. -/
theorem steps_run (notes : Notes) (table : SortedMap SourceRef (List Marker)) (w : Walk) :
    Relation.ReflTransGen (Step notes table) w (w.run notes table) := by
  fun_induction run notes table w with
  | case1 w hs => exact .refl
  | case2 w source stack hs hu ih => exact .head (.advance (advance_visit hs hu)) ih
  | case3 w source stack hs hu ih =>
    have h : Advance notes table w { w with stack := w.stack.erase source } :=
      .pass (hs ▸ List.mem_cons_self) hu
    rw [hs, List.erase_cons_head] at h
    exact .head (.advance h) ih

/-- So does a walk from every one of some notes, one after the other. -/
theorem steps_foldl_run (notes : Notes) {starts : List SourceRef} (w : Walk)
    (hk : ∀ s ∈ starts, s ∈ table.keys) (hw : w.stack = []) :
    Relation.ReflTransGen (Step notes table) w
      (starts.foldl (fun w start => run notes table { w with stack := [start] }) w) := by
  induction starts generalizing w with
  | nil => exact .refl
  | cons start starts ih =>
    have hstart : Step notes table w { w with stack := start :: w.stack } :=
      .start (hk start List.mem_cons_self)
    rw [hw] at hstart
    exact .trans (.head hstart (steps_run notes table _))
      (ih _ (fun s hs => hk s (List.mem_cons_of_mem _ hs)) (stack_run notes table _))

end Walk

/-- The graph of some layers comes from a walk that leaves no note out. -/
theorem exists_walk_ofLayers (notes : Notes) (ls : List Layer) :
    ∃ w, Relation.ReflTransGen (Walk.Step notes (markerTable (markersOf ls)))
        (.fresh (markerTable (markersOf ls))) w ∧
      w.unvisited = [] ∧ w.graph = ofLayers notes ls := by
  refine ⟨_, Walk.steps_foldl_run notes (.fresh _) (fun s hs => hs) rfl, ?_, rfl⟩
  obtain ⟨hun, -⟩ := Walk.contains_foldl_run notes (markerTable (markersOf ls))
    (markerTable (markersOf ls)).keys (.fresh (markerTable (markersOf ls))) "" ""
  exact List.eq_nil_iff_forall_not_mem.2 fun s hs => (hun s hs).2 (hun s hs).1

/-! ## The relation of some layers -/

/-- Some of the layers are a marker with the first id and one with the second id at which a link of
the first one's note points. -/
def LinkedIds (notes : Notes) (ls : List Layer) (x y : String) : Prop :=
  ∃ m m', .marker m ∈ ls ∧ .marker m' ∈ ls ∧ m.info.id = x ∧ m'.info.id = y ∧ Links notes m m'

theorem contains_ofLayers_iff_linkedIds (notes : Notes) (ls : List Layer) (a b : String) :
    (ofLayers notes ls).contains a b = true ↔
      a ≠ b ∧ (LinkedIds notes ls a b ∨ LinkedIds notes ls b a) := by
  rw [contains_ofLayers]
  refine and_congr_right fun _ => ?_
  simp only [mem_markersOf]
  constructor
  · rintro ⟨m, hm, m', hm', hl, hs⟩
    rcases Sym2.eq_iff.1 hs with ⟨rfl, rfl⟩ | ⟨rfl, rfl⟩
    · exact Or.inl ⟨m, m', hm, hm', rfl, rfl, hl⟩
    · exact Or.inr ⟨m, m', hm, hm', rfl, rfl, hl⟩
  · rintro (⟨m, m', hm, hm', rfl, rfl, hl⟩ | ⟨m, m', hm, hm', rfl, rfl, hl⟩)
    · exact ⟨m, hm, m', hm', hl, rfl⟩
    · exact ⟨m, hm, m', hm', hl, Sym2.eq_swap⟩

/-- **The graph of some layers is the relation that their links define.** Two ids are related if and
only if they differ and a link leads from a marker with one of them to a marker with the other one
and points at it. Every relation is there once. Neither the order of the layers nor the way of the
walk plays a part: no walk goes on for ever, whatever cycles the links make, and any walk that
leaves no note out finds the same relations, also one that follows links in another order or more
than once. -/
theorem ofLayers_relates_linked (notes : Notes) (ls : List Layer) :
    (∀ a b, (ofLayers notes ls).contains a b = true ↔
        a ≠ b ∧ (LinkedIds notes ls a b ∨ LinkedIds notes ls b a)) ∧
      (ofLayers notes ls).pairs.Nodup ∧
      (ofLayers notes ls).size = (ofLayers notes ls).pairs.length ∧
      (∀ ls', (∀ l, l ∈ ls' ↔ l ∈ ls) → (ofLayers notes ls').pairs = (ofLayers notes ls).pairs) ∧
      (WellFounded fun w' w => Walk.Advance notes (markerTable (markersOf ls)) w w') ∧
      ∀ w, Relation.ReflTransGen (Walk.Step notes (markerTable (markersOf ls)))
          (.fresh (markerTable (markersOf ls))) w → w.unvisited = [] →
        w.graph.pairs = (ofLayers notes ls).pairs := by
  refine ⟨contains_ofLayers_iff_linkedIds notes ls, SortedMap.nodup_keys _, ?_, fun ls' hls => ?_,
    Walk.wellFounded_advance notes _, fun w hw hu => ?_⟩
  · unfold size SortedMap.size pairs SortedMap.keys
    rw [List.length_map]
  · refine pairs_congr fun a b => Bool.eq_iff_iff.2 ?_
    simp only [contains_ofLayers_iff_linkedIds, LinkedIds, hls]
  · obtain ⟨w', hw', hu', hg⟩ := exists_walk_ofLayers notes ls
    rw [← hg]
    exact pairs_congr ((Walk.explored_fresh.steps hw).contains_congr
      (Walk.explored_fresh.steps hw') hu hu')

end LinkGraph

end Gazetteer
