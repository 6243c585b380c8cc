import Gazetteer.Link.Graph
import Gazetteer.Proofs.Data.SortedMap
import Mathlib.Data.Sym.Sym2

/-!
# Which markers are related

The relation that `LinkGraph.ofLayers` finds is the one that links define (`Links`): it does not
depend on the order in which the walk goes, on cycles, or on how often a link is written
(`contains_ofLayers`). The walk carries two facts: what it relates comes from notes that it has come
to, and every note it was told to go to is one that it has come to in the end.

Relations are compared as unordered pairs `s(a, b)`. The number of relations of a marker and the
list of all pairs depend on nothing but which markers are related (`pairs_congr`, `degree_congr`).
-/

namespace Gazetteer

namespace IdPair

theorem of?_eq_none_iff {a b : String} : of? a b = none ↔ a = b := by
  unfold of?
  constructor
  · intro h
    split at h
    · cases h
    · split at h
      · cases h
      · rename_i hab hba
        exact String.le_antisymm (String.not_lt.1 hba) (String.not_lt.1 hab)
  · rintro rfl
    rw [dif_neg (String.lt_irrefl a), dif_neg (String.lt_irrefl a)]

theorem sym2_of_of?_eq_some {a b : String} {p : IdPair} (h : of? a b = some p) :
    s(p.low, p.high) = s(a, b) := by
  unfold of? at h
  split at h
  · cases h
    rfl
  · split at h
    · cases h
      exact Sym2.eq_swap
    · cases h

theorem of?_low_high (p : IdPair) : of? p.low p.high = some p := by
  unfold of?
  rw [dif_pos p.low_lt_high]

theorem of?_congr {a b c d : String} (h : s(a, b) = s(c, d)) : of? a b = of? c d := by
  rcases Sym2.eq_iff.1 h with ⟨rfl, rfl⟩ | ⟨rfl, rfl⟩
  · rfl
  · exact of?_comm a b

/-- A pair is the pair of its two ids, in either order. -/
theorem of?_eq_some_iff {a b : String} {p : IdPair} :
    of? a b = some p ↔ s(a, b) = s(p.low, p.high) := by
  refine ⟨fun h => (sym2_of_of?_eq_some h).symm, fun h => ?_⟩
  rw [of?_congr h, of?_low_high]

end IdPair

namespace LinkGraph

variable {g g' : LinkGraph} {a b c d id : String}

/-! ## What a graph shows -/

theorem contains_comm (g : LinkGraph) (a b : String) : g.contains a b = g.contains b a := by
  unfold contains
  rw [IdPair.of?_comm]

theorem contains_empty (a b : String) : empty.contains a b = false := by
  unfold contains
  cases IdPair.of? a b <;> rfl

theorem mem_pairs_iff {p : IdPair} : p ∈ g.pairs ↔ g.contains p.low p.high = true := by
  unfold pairs contains
  rw [SortedMap.mem_keys_iff, IdPair.of?_low_high, Option.any_some]

/-- Graphs that relate the same markers list the same pairs. -/
theorem pairs_congr (h : ∀ a b, g.contains a b = g'.contains a b) : g.pairs = g'.pairs := by
  unfold pairs
  refine SortedMap.keys_congr fun p => ?_
  have hp := h p.low p.high
  unfold contains at hp
  rwa [IdPair.of?_low_high, Option.any_some, Option.any_some] at hp

/-- The relations of a marker are the pairs that it is in. -/
theorem degree_eq (g : LinkGraph) (id : String) :
    g.degree id = (g.pairs.filterMap (·.other? id)).length := by
  unfold degree edgesOf pairs SortedMap.keys
  rw [List.filterMap_map, List.length_filterMap_eq_countP, List.length_filterMap_eq_countP]
  refine List.countP_congr fun e _ => ?_
  rw [Option.isSome_map, Function.comp_apply]

theorem degree_congr (h : g.pairs = g'.pairs) (id : String) : g.degree id = g'.degree id := by
  rw [degree_eq, degree_eq, h]

/-! ## Relating markers -/

theorem contains_relate (g : LinkGraph) (c d : String) :
    (g.relate c d).contains a b = true ↔ g.contains a b = true ∨ a ≠ b ∧ s(a, b) = s(c, d) := by
  unfold relate
  cases hcd : IdPair.of? c d with
  | none =>
    refine ⟨Or.inl, ?_⟩
    rintro (h | ⟨hne, h⟩)
    · exact h
    · rw [← IdPair.of?_congr h, IdPair.of?_eq_none_iff] at hcd
      exact absurd hcd hne
  | some p =>
    -- The ids are those of the pair that comes in if and only if they make the same pair.
    have hsame : a ≠ b ∧ s(a, b) = s(c, d) ↔ IdPair.of? a b = some p := by
      rw [← hcd]
      refine ⟨fun h => IdPair.of?_congr h.2, fun h => ⟨fun he => ?_, ?_⟩⟩
      · rw [IdPair.of?_eq_none_iff.2 he, hcd] at h
        cases h
      · rw [hcd] at h
        rw [IdPair.of?_eq_some_iff.1 h, IdPair.of?_eq_some_iff.1 hcd]
    rw [hsame]
    simp only
    split
    · rename_i hold
      refine ⟨Or.inl, ?_⟩
      rintro (h | h)
      · exact h
      · unfold contains
        rw [h, Option.any_some, hold]
    · unfold contains SortedMap.contains
      cases hab : IdPair.of? a b with
      | none => simp
      | some q =>
        simp only [Option.any_some, SortedMap.get?_insert, Option.some.injEq]
        by_cases hq : q = p <;> simp [hq]

theorem contains_foldl_relate (g : LinkGraph) (own : List Marker) (m : Marker) :
    (own.foldl (fun g o => g.relate o.info.id m.info.id) g).contains a b = true ↔
      g.contains a b = true ∨ a ≠ b ∧ ∃ o ∈ own, s(a, b) = s(o.info.id, m.info.id) := by
  induction own generalizing g with
  | nil => simp
  | cons o own ih =>
    rw [List.foldl_cons, ih, contains_relate, or_assoc, ← and_or_left]
    simp only [List.mem_cons, exists_eq_or_imp]

theorem contains_relateAll (g : LinkGraph) (own reached : List Marker) :
    (g.relateAll own reached).contains a b = true ↔
      g.contains a b = true ∨
        a ≠ b ∧ ∃ o ∈ own, ∃ m ∈ reached, s(a, b) = s(o.info.id, m.info.id) := by
  unfold relateAll
  induction reached generalizing g with
  | nil => simp
  | cons m reached ih =>
    rw [List.foldl_cons, ih, contains_foldl_relate, or_assoc, ← and_or_left]
    simp only [List.mem_cons, exists_eq_or_imp, exists_or, and_or_left]

/-! ## The walk -/

namespace Walk

variable {notes : Notes} {table : SortedMap SourceRef (List Marker)} {source : SourceRef}
  {w : Walk}

/-- What visiting a note relates: two ids of a marker of the note and of one that its links point
at. -/
def Relates (notes : Notes) (table : SortedMap SourceRef (List Marker)) (source : SourceRef)
    (links : List LinkRef) (a b : String) : Prop :=
  ∃ l ∈ links, ∃ target, notes.resolve l.link source = some target ∧
    ∃ o ∈ (table.get? source).getD [], ∃ m ∈ (table.get? target).getD [],
      l.pointsAt notes source (.marker m) = true ∧ s(a, b) = s(o.info.id, m.info.id)

theorem contains_follow (w : Walk) (l : LinkRef) :
    (w.follow notes table source l).graph.contains a b = true ↔
      w.graph.contains a b = true ∨ a ≠ b ∧ Relates notes table source [l] a b := by
  unfold follow Relates
  cases hr : notes.resolve l.link source with
  | none => simp [hr]
  | some target =>
    cases ht : table.get? target with
    | none => simp [hr, ht]
    | some ms =>
      simp only [contains_relateAll, List.mem_filter, List.mem_singleton, exists_eq_left, hr,
        Option.some.injEq, exists_eq_left', ht, Option.getD_some, and_assoc]

theorem contains_foldl_follow (w : Walk) (links : List LinkRef) :
    (links.foldl (follow notes table source) w).graph.contains a b = true ↔
      w.graph.contains a b = true ∨ a ≠ b ∧ Relates notes table source links a b := by
  induction links generalizing w with
  | nil => simp [Relates]
  | cons l links ih =>
    rw [List.foldl_cons, ih, contains_follow, or_assoc, ← and_or_left]
    simp only [Relates, List.mem_cons, List.not_mem_nil, or_false, exists_eq_left, exists_eq_or_imp]

theorem contains_visit (source : SourceRef) (w : Walk) :
    (w.visit notes table source).graph.contains a b = true ↔
      w.graph.contains a b = true ∨ a ≠ b ∧
        ∃ o, notes.outline? source = some o ∧ Relates notes table source o.allLinks a b := by
  unfold visit
  cases ho : notes.outline? source with
  | none => simp
  | some o => simp [contains_foldl_follow]

theorem mem_stack_follow {s : SourceRef} (h : s ∈ w.stack) (l : LinkRef) :
    s ∈ (w.follow notes table source l).stack := by
  unfold follow
  split
  · exact h
  · split
    · exact h
    · simp only
      split
      · exact List.mem_cons_of_mem _ h
      · exact h

theorem mem_stack_visit {s : SourceRef} (h : s ∈ w.stack) (source : SourceRef) :
    s ∈ (w.visit notes table source).stack := by
  unfold visit
  split
  · exact h
  · rename_i o ho
    have hfold : ∀ (links : List LinkRef) (w : Walk), s ∈ w.stack →
        s ∈ (links.foldl (follow notes table source) w).stack := fun links => by
      induction links with
      | nil => exact fun _ h => h
      | cons l links ih => exact fun w h => ih _ (mem_stack_follow h l)
    exact hfold o.allLinks _ h

theorem mem_unvisited_of_run {s : SourceRef} (h : s ∈ (w.run notes table).unvisited) :
    s ∈ w.unvisited := by
  fun_induction run notes table w with
  | case1 w hs => exact h
  | case2 w source stack hs hu ih =>
    have hv := ih h
    rw [unvisited_visit] at hv
    exact List.mem_of_mem_filter hv
  | case3 w source stack hs hu ih => exact ih h

/-- The walk does not come again to a note that was visited. -/
theorem not_mem_unvisited_run_visit (source : SourceRef) (w : Walk) :
    source ∉ ((w.visit notes table source).run notes table).unvisited := by
  intro hm
  have hv := mem_unvisited_of_run hm
  rw [unvisited_visit, List.mem_filter, bne_self_eq_false] at hv
  cases hv.2

/-- The walk comes to every note that it was told to go to. -/
theorem not_mem_unvisited_run {s : SourceRef} (h : s ∈ w.stack) :
    s ∉ (w.run notes table).unvisited := by
  fun_induction run notes table w with
  | case1 w hs => rw [hs] at h; cases h
  | case2 w source stack hs hu ih =>
    rw [hs] at h
    rcases List.mem_cons.1 h with rfl | h
    · exact not_mem_unvisited_run_visit s _
    · exact ih (mem_stack_visit (w := { w with stack }) h source)
  | case3 w source stack hs hu ih =>
    rw [hs] at h
    rcases List.mem_cons.1 h with rfl | h
    · exact fun hm => hu (mem_unvisited_of_run (w := { w with stack }) hm)
    · exact ih h

/-- A walk relates what the notes that it newly comes to say. -/
theorem contains_run (w : Walk) :
    (w.run notes table).graph.contains a b = true ↔
      w.graph.contains a b = true ∨ a ≠ b ∧
        ∃ source ∈ w.unvisited, source ∉ (w.run notes table).unvisited ∧
          ∃ o, notes.outline? source = some o ∧ Relates notes table source o.allLinks a b := by
  fun_induction run notes table w with
  | case1 w hs =>
    refine ⟨Or.inl, ?_⟩
    rintro (h | ⟨-, source, hu, hn, -⟩)
    · exact h
    · exact absurd hu hn
  | case2 w source stack hs hu ih =>
    rw [ih, contains_visit, or_assoc, ← and_or_left]
    refine or_congr_right (and_congr_right fun _ => ?_)
    have hgone : source ∉ ((visit notes table source { w with stack }).run notes table).unvisited :=
      not_mem_unvisited_run_visit source _
    simp only [unvisited_visit, List.mem_filter, bne_iff_ne]
    constructor
    · rintro (h | ⟨source', ⟨hu', -⟩, h⟩)
      · exact ⟨source, hu, hgone, h⟩
      · exact ⟨source', hu', h⟩
    · rintro ⟨source', hu', hn, h⟩
      by_cases he : source' = source
      · exact Or.inl (he ▸ h)
      · exact Or.inr ⟨source', ⟨hu', he⟩, hn, h⟩
  | case3 w source stack hs hu ih => exact ih

/-- A walk from every one of some notes, one after the other. -/
theorem contains_foldl_run (notes : Notes) (table : SortedMap SourceRef (List Marker))
    (starts : List SourceRef) (w : Walk) (a b : String) :
    let w' := starts.foldl (fun w start => run notes table { w with stack := [start] }) w
    (∀ s ∈ w'.unvisited, s ∈ w.unvisited ∧ s ∉ starts) ∧
      (w'.graph.contains a b = true ↔
        w.graph.contains a b = true ∨ a ≠ b ∧
          ∃ source ∈ w.unvisited, source ∉ w'.unvisited ∧
            ∃ o, notes.outline? source = some o ∧ Relates notes table source o.allLinks a b) := by
  induction starts generalizing w with
  | nil =>
    refine ⟨fun s h => ⟨h, List.not_mem_nil⟩, Or.inl, ?_⟩
    rintro (h | ⟨-, source, hu, hn, -⟩)
    · exact h
    · exact absurd hu hn
  | cons start starts ih =>
    obtain ⟨hun, hcon⟩ := ih (run notes table { w with stack := [start] })
    rw [List.foldl_cons]
    refine ⟨fun s hs => ?_, hcon.trans ?_⟩
    · obtain ⟨hs, hnot⟩ := hun s hs
      refine ⟨mem_unvisited_of_run (w := { w with stack := [start] }) hs, fun hm => ?_⟩
      rcases List.mem_cons.1 hm with rfl | hm
      · exact not_mem_unvisited_run (w := { w with stack := [s] }) List.mem_cons_self hs
      · exact hnot hm
    · rw [contains_run, or_assoc, ← and_or_left]
      refine or_congr_right (and_congr_right fun _ => ?_)
      constructor
      · rintro (⟨source, hu, hn, h⟩ | ⟨source, hu, hn, h⟩)
        · exact ⟨source, hu, fun hm => hn (hun source hm).1, h⟩
        · exact ⟨source, mem_unvisited_of_run (w := { w with stack := [start] }) hu, hn, h⟩
      · rintro ⟨source, hu, hn, h⟩
        by_cases hr : source ∈ (run notes table { w with stack := [start] }).unvisited
        · exact Or.inr ⟨source, hr, hn, h⟩
        · exact Or.inl ⟨source, hu, hr, h⟩

end Walk

/-! ## The relation -/

/-- A link of the note of one marker leads to the note of another one and points at that marker. -/
def Links (notes : Notes) (m m' : Marker) : Prop :=
  ∃ o, notes.outline? m.info.source = some o ∧ ∃ l ∈ o.allLinks,
    notes.resolve l.link m.info.source = some m'.info.source ∧
      l.pointsAt notes m.info.source (.marker m') = true

instance (notes : Notes) (m m' : Marker) : Decidable (Links notes m m') :=
  match h : notes.outline? m.info.source with
  | none => .isFalse fun ⟨_, ho, _⟩ => nomatch h.symm.trans ho
  | some o =>
    decidable_of_iff (∃ l ∈ o.allLinks, notes.resolve l.link m.info.source = some m'.info.source ∧
        l.pointsAt notes m.info.source (.marker m') = true)
      ⟨fun hl => ⟨o, h, hl⟩, fun ⟨_, ho, hl⟩ => Option.some.inj (h.symm.trans ho) ▸ hl⟩

theorem getD_get?_markerTable (ms : List Marker) (source : SourceRef) :
    ((markerTable ms).get? source).getD [] = ms.filter (·.info.source == source) := by
  have hfold : ∀ t : SortedMap SourceRef (List Marker),
      ((ms.foldl (fun t m =>
        t.insert m.info.source ((t.get? m.info.source).getD [] ++ [m])) t).get? source).getD [] =
      (t.get? source).getD [] ++ ms.filter (·.info.source == source) := by
    induction ms with
    | nil => simp
    | cons m ms ih =>
      intro t
      rw [List.foldl_cons, ih, SortedMap.get?_insert, List.filter_cons]
      by_cases h : m.info.source = source
      · simp [h]
      · simp [h, Ne.symm h]
  exact hfold .empty

theorem mem_markerTable {ms : List Marker} {source : SourceRef} {m : Marker} :
    m ∈ ((markerTable ms).get? source).getD [] ↔ m ∈ ms ∧ m.info.source = source := by
  rw [getD_get?_markerTable, List.mem_filter, beq_iff_eq]

/-- Two ids are related if and only if they differ and markers with these ids are linked, in one
direction or the other. -/
theorem contains_ofLayers (notes : Notes) (ls : List Layer) (a b : String) :
    (ofLayers notes ls).contains a b = true ↔
      a ≠ b ∧ ∃ m ∈ markersOf ls, ∃ m' ∈ markersOf ls,
        Links notes m m' ∧ s(a, b) = s(m.info.id, m'.info.id) := by
  unfold ofLayers
  simp only
  obtain ⟨hun, hcon⟩ := Walk.contains_foldl_run notes (markerTable (markersOf ls))
    (markerTable (markersOf ls)).keys ⟨(markerTable (markersOf ls)).keys, [], empty⟩ a b
  rw [hcon, contains_empty]
  simp only [Bool.false_eq_true, false_or]
  refine and_congr_right fun _ => ?_
  constructor
  · rintro ⟨source, -, -, o, ho, l, hl, target, hr, m, hm, m', hm', hp, hs⟩
    obtain ⟨hmem, rfl⟩ := mem_markerTable.1 hm
    obtain ⟨hmem', rfl⟩ := mem_markerTable.1 hm'
    exact ⟨m, hmem, m', hmem', ⟨o, ho, l, hl, hr, hp⟩, hs⟩
  · rintro ⟨m, hm, m', hm', ⟨o, ho, l, hl, hr, hp⟩, hs⟩
    have hown := mem_markerTable.2 ⟨hm, rfl⟩
    have hkey : m.info.source ∈ (markerTable (markersOf ls)).keys := by
      rw [SortedMap.mem_keys_iff, SortedMap.contains_iff]
      cases ht : (markerTable (markersOf ls)).get? m.info.source with
      | none => simp [ht] at hown
      | some own => exact ⟨own, rfl⟩
    exact ⟨m.info.source, hkey, fun hu => (hun _ hu).2 hkey, o, ho, l, hl, _, hr, m, hown, m',
      mem_markerTable.2 ⟨hm', rfl⟩, hp, hs⟩

/-- The graph of the links between some layers, pair by pair. -/
def ofLinks (notes : Notes) (ls : List Layer) : LinkGraph :=
  (markersOf ls).foldl
    (fun g m => g.relateAll [m] ((markersOf ls).filter fun m' => Links notes m m')) empty

theorem contains_foldl_relateAll (g : LinkGraph) (own ms : List Marker) :
    (own.foldl (fun g m => g.relateAll [m] (ms.filter fun m' => Links notes m m')) g).contains a b =
        true ↔
      g.contains a b = true ∨ a ≠ b ∧ ∃ m ∈ own, ∃ m' ∈ ms,
        Links notes m m' ∧ s(a, b) = s(m.info.id, m'.info.id) := by
  induction own generalizing g with
  | nil => simp
  | cons m own ih =>
    rw [List.foldl_cons, ih, contains_relateAll]
    simp only [List.mem_singleton, exists_eq_left, List.mem_filter, decide_eq_true_eq,
      List.exists_mem_cons_iff, and_assoc]
    rw [or_assoc, ← and_or_left]

/-- The walk along the links finds the graph of the links. -/
theorem pairs_ofLayers (notes : Notes) (ls : List Layer) :
    (ofLayers notes ls).pairs = (ofLinks notes ls).pairs := by
  refine pairs_congr fun a b => Bool.eq_iff_iff.2 ?_
  unfold ofLinks
  rw [contains_ofLayers, contains_foldl_relateAll, contains_empty]
  simp only [Bool.false_eq_true, false_or]

theorem mem_markersOf {ls : List Layer} {m : Marker} : m ∈ markersOf ls ↔ .marker m ∈ ls := by
  unfold markersOf
  rw [List.mem_filterMap]
  constructor
  · rintro ⟨l, hl, hm⟩
    cases l <;> cases hm
    exact hl
  · exact fun h => ⟨.marker m, h, rfl⟩

/-- Both ids of a relation are ids of markers. -/
theorem mem_ids_of_mem_pairs_ofLayers {notes : Notes} {ls : List Layer} {p : IdPair}
    (h : p ∈ (ofLayers notes ls).pairs) :
    (∃ m, .marker m ∈ ls ∧ m.info.id = p.low) ∧ ∃ m, .marker m ∈ ls ∧ m.info.id = p.high := by
  obtain ⟨-, m, hm, m', hm', -, hs⟩ := (contains_ofLayers notes ls _ _).1 (mem_pairs_iff.1 h)
  rcases Sym2.eq_iff.1 hs with ⟨hlow, hhigh⟩ | ⟨hlow, hhigh⟩
  · exact ⟨⟨m, mem_markersOf.1 hm, hlow.symm⟩, m', mem_markersOf.1 hm', hhigh.symm⟩
  · exact ⟨⟨m', mem_markersOf.1 hm', hlow.symm⟩, m, mem_markersOf.1 hm, hhigh.symm⟩

/-! ## What the relation depends on -/

variable {notes notes' : Notes} {m m' n n' : Marker}

theorem pointsAt_marker_congr (h : m.info = n.info) (l : LinkRef) (origin : SourceRef) :
    l.pointsAt notes origin (.marker m) = l.pointsAt notes origin (.marker n) := by
  simp only [LinkRef.pointsAt, Layer.info?, h, Layer.kind]

theorem links_congr (hm : m.info = n.info) (hm' : m'.info = n'.info) :
    Links notes m m' ↔ Links notes n n' := by
  unfold Links
  simp only [hm, hm', pointsAt_marker_congr hm']

/-- What a link points at depends on what it resolves to and on the outline of the note there. -/
theorem pointsAt_marker_congr_notes {l : LinkRef} {origin : SourceRef}
    (hr : notes.resolve l.link origin = notes'.resolve l.link origin)
    (ho : notes.outline? m.info.source = notes'.outline? m.info.source) :
    l.pointsAt notes origin (.marker m) = l.pointsAt notes' origin (.marker m) := by
  simp only [LinkRef.pointsAt, Layer.info?, LinkRef.targets, LinkRef.resolvesTo, LinkRef.reaches,
    hr, ho]

/-- Links depend on the outlines of the two notes and on which links of the one lead to the
other. -/
theorem links_congr_resolve
    (ho : notes.outline? m.info.source = notes'.outline? m.info.source)
    (ho' : notes.outline? m'.info.source = notes'.outline? m'.info.source)
    (hr : ∀ o, notes.outline? m.info.source = some o → ∀ l ∈ o.allLinks,
      (notes.resolve l.link m.info.source = some m'.info.source ↔
        notes'.resolve l.link m.info.source = some m'.info.source)) :
    Links notes m m' ↔ Links notes' m m' := by
  unfold Links
  rw [← ho]
  refine exists_congr fun o => and_congr_right fun hout => exists_congr fun l =>
    and_congr_right fun hl => ?_
  have hleads := hr o hout l hl
  constructor
  · rintro ⟨hto, hpoints⟩
    have hto' := hleads.1 hto
    exact ⟨hto', (pointsAt_marker_congr_notes (hto.trans hto'.symm) ho').symm.trans hpoints⟩
  · rintro ⟨hto', hpoints⟩
    have hto := hleads.2 hto'
    exact ⟨hto, (pointsAt_marker_congr_notes (hto.trans hto'.symm) ho').trans hpoints⟩

/-- The relation depends on what the markers know about their notes. -/
theorem pairs_ofLayers_congr {ls ls' : List Layer}
    (hinfo : ∀ i, (∃ m, .marker m ∈ ls ∧ m.info = i) ↔ ∃ m, .marker m ∈ ls' ∧ m.info = i)
    (hlinks : ∀ m m', .marker m ∈ ls → .marker m' ∈ ls → (Links notes m m' ↔ Links notes' m m')) :
    (ofLayers notes ls).pairs = (ofLayers notes' ls').pairs := by
  refine pairs_congr fun a b => Bool.eq_iff_iff.2 ?_
  rw [contains_ofLayers, contains_ofLayers]
  simp only [mem_markersOf]
  refine and_congr_right fun _ => ?_
  constructor
  · rintro ⟨m, hm, m', hm', hl, hs⟩
    obtain ⟨n, hn, hmn⟩ := (hinfo m.info).1 ⟨m, hm, rfl⟩
    obtain ⟨n', hn', hmn'⟩ := (hinfo m'.info).1 ⟨m', hm', rfl⟩
    refine ⟨n, hn, n', hn', (links_congr hmn hmn').2 ((hlinks m m' hm hm').1 hl), ?_⟩
    rw [hmn, hmn', hs]
  · rintro ⟨n, hn, n', hn', hl, hs⟩
    obtain ⟨m, hm, hmn⟩ := (hinfo n.info).2 ⟨n, hn, rfl⟩
    obtain ⟨m', hm', hmn'⟩ := (hinfo n'.info).2 ⟨n', hn', rfl⟩
    refine ⟨m, hm, m', hm', (hlinks m m' hm hm').2 ((links_congr hmn hmn').2 hl), ?_⟩
    rw [hmn, hmn', hs]

/-! ## Markers with the number of their relations -/

/-- A layer says how many relations it has, if it is a marker. -/
def Counts (g : LinkGraph) (l : Layer) : Prop :=
  ∀ m, l = .marker m → m.edgeCount = g.degree m.info.id

@[simp] theorem id_stamp (g : LinkGraph) (l : Layer) : (g.stamp l).id = l.id := by
  cases l <;> rfl

@[simp] theorem source?_stamp (g : LinkGraph) (l : Layer) : (g.stamp l).source? = l.source? := by
  cases l <;> rfl

@[simp] theorem info?_stamp (g : LinkGraph) (l : Layer) : (g.stamp l).info? = l.info? := by
  cases l <;> rfl

@[simp] theorem tags_stamp (g : LinkGraph) (l : Layer) : (g.stamp l).tags = l.tags := by
  cases l <;> rfl

@[simp] theorem isFloating_stamp (g : LinkGraph) (l : Layer) :
    (g.stamp l).isFloating = l.isFloating := by
  cases l <;> rfl

/-- What becomes a marker was one. -/
theorem stamp_eq_marker_iff {l : Layer} :
    g.stamp l = .marker m ↔ ∃ n, l = .marker n ∧ g.stampMarker n = m := by
  constructor
  · intro h
    cases l <;> cases h
    exact ⟨_, rfl, rfl⟩
  · rintro ⟨n, rfl, rfl⟩
    rfl

theorem counts_stamp (g : LinkGraph) (l : Layer) : g.Counts (g.stamp l) := by
  intro m hm
  obtain ⟨n, -, rfl⟩ := stamp_eq_marker_iff.1 hm
  rfl

theorem stamp_congr (h : g.pairs = g'.pairs) (l : Layer) : g.stamp l = g'.stamp l := by
  cases l with
  | marker m =>
    show Layer.marker (g.stampMarker m) = .marker (g'.stampMarker m)
    unfold stampMarker
    rw [degree_congr h]
  | _ => rfl

/-- The last stamp counts. -/
@[simp] theorem stamp_stamp (g g' : LinkGraph) (l : Layer) : g.stamp (g'.stamp l) = g.stamp l := by
  cases l <;> rfl

/-- A layer that says how many relations it has is stamped already. -/
theorem Counts.stamp_eq {l : Layer} (h : g.Counts l) : g.stamp l = l := by
  cases l with
  | marker m =>
    show Layer.marker (g.stampMarker m) = .marker m
    unfold stampMarker
    rw [← h m rfl]
  | _ => rfl

end LinkGraph

end Gazetteer
