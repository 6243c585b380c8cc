import Gazetteer.Link.Network
import Gazetteer.Proofs.Link.Changes

/-!
# Networks keep relations

A network over a store that keeps what it is given (`NodeStore.Lawful`) shows the same map as the
link graph, and answers the same, after any changes. What carries the proof is what the nodes, the
lines and the table say together (`Content`): an id has a node exactly as the table says, no two
lines join the same nodes, and the lines are the relations. It does not mention how nodes are
numbered, so nothing goes wrong when the node of a new id is numbered like one that was removed.
-/

namespace Gazetteer

/-- A line with a handle, if it is the one with a number. -/
def NodeLine.draw (number handle : Nat) (l : NodeLine) : NodeLine :=
  if l.number = number then { l with handle := some handle } else l

/-- A store has the nodes and lines that it was given, in any order, under numbers that were
free. -/
structure NodeStore.Lawful {σ : Type} (S : NodeStore σ) : Prop where
  nodes_empty : S.nodes S.empty = []
  lines_empty : S.lines S.empty = []
  number_addNode : ∀ s label, (S.addNode s label).1 ∉ (S.nodes s).map Prod.fst
  nodes_addNode : ∀ s label,
    (S.nodes (S.addNode s label).2).Perm (((S.addNode s label).1, label) :: S.nodes s)
  lines_addNode : ∀ s label, (S.lines (S.addNode s label).2).Perm (S.lines s)
  nodes_removeNode : ∀ s n, (S.nodes (S.removeNode s n)).Perm ((S.nodes s).filter (·.1 != n))
  lines_removeNode : ∀ s n,
    (S.lines (S.removeNode s n)).Perm ((S.lines s).filter fun l => !l.touches n)
  nodes_addLine : ∀ s m n, (S.nodes (S.addLine s m n)).Perm (S.nodes s)
  /-- A line can be added between nodes that there are. -/
  lines_addLine : ∀ s m n, m ∈ (S.nodes s).map Prod.fst → n ∈ (S.nodes s).map Prod.fst →
    ∃ number, number ∉ (S.lines s).map NodeLine.number ∧
      (S.lines (S.addLine s m n)).Perm (⟨number, m, n, none⟩ :: S.lines s)
  nodes_setHandle : ∀ s number handle, (S.nodes (S.setHandle s number handle)).Perm (S.nodes s)
  lines_setHandle : ∀ s number handle,
    (S.lines (S.setHandle s number handle)).Perm ((S.lines s).map (NodeLine.draw number handle))

namespace NodeLine

variable {l : NodeLine} {i j n : Nat}

/-- The two nodes of a line. -/
def ends (l : NodeLine) : Sym2 Nat := s(l.source, l.target)

theorem joins_iff : l.joins i j = true ↔ l.ends = s(i, j) := by
  simp [joins, ends]

theorem touches_iff : l.touches n = true ↔ l.ends = s(n, l.across n) := by
  unfold touches across ends
  by_cases h : l.source = n
  · simp [h]
  · simp only [h, if_false, Sym2.eq_iff, Bool.or_eq_true, beq_iff_eq, false_and, false_or]
    exact ⟨fun ht => ⟨trivial, ht⟩, fun ht => ht.2⟩

theorem touches_of_ends (h : l.ends = s(n, j)) : l.touches n = true ∧ l.across n = j := by
  unfold ends at h
  unfold touches across
  rcases Sym2.eq_iff.1 h with ⟨rfl, rfl⟩ | ⟨rfl, rfl⟩
  · simp
  · by_cases he : l.source = l.target <;> simp [he]

theorem not_touches_iff (h : l.ends = s(i, j)) : (!l.touches n) = true ↔ i ≠ n ∧ j ≠ n := by
  unfold ends at h
  rcases Sym2.eq_iff.1 h with ⟨rfl, rfl⟩ | ⟨rfl, rfl⟩ <;> simp [touches, and_comm]

section Draw

variable (l : NodeLine) (number handle : Nat)

@[simp] theorem number_draw : (l.draw number handle).number = l.number := by
  unfold draw; split <;> rfl

@[simp] theorem source_draw : (l.draw number handle).source = l.source := by
  unfold draw; split <;> rfl

@[simp] theorem target_draw : (l.draw number handle).target = l.target := by
  unfold draw; split <;> rfl

@[simp] theorem ends_draw : (l.draw number handle).ends = l.ends := by
  rw [ends, source_draw, target_draw, ends]

end Draw

end NodeLine

/-! ## What nodes, lines and the table say together -/

/-- The lines between the nodes are some relations between the ids in a table. -/
structure Network.Content (t : SortedMap String Nat) (nodes : List (Nat × String))
    (lines : List NodeLine) (r : Relations) : Prop where
  get?_eq_some_iff : ∀ {id n}, t.get? id = some n ↔ (n, id) ∈ nodes
  nodup_nodes : (nodes.map Prod.fst).Nodup
  nodup_lines : (lines.map NodeLine.number).Nodup
  /-- A line joins the nodes of two distinct ids. -/
  ends : ∀ l ∈ lines, ∃ a b, a ≠ b ∧ (l.source, a) ∈ nodes ∧ (l.target, b) ∈ nodes
  /-- No two lines join the same nodes. -/
  eq_of_ends : ∀ l ∈ lines, ∀ l' ∈ lines, l.ends = l'.ends → l = l'
  relations : ∀ {a b handle}, r s(a, b) = some handle ↔
    ∃ i j, t.get? a = some i ∧ t.get? b = some j ∧ ∃ l ∈ lines, l.ends = s(i, j) ∧
      l.handle = handle

namespace Network.Content

variable {t : SortedMap String Nat} {nodes nodes' : List (Nat × String)}
  {lines lines' : List NodeLine} {r : Relations} {a b id : String} {i j n : Nat} {l l' : NodeLine}

theorem perm (h : Content t nodes lines r) (hn : nodes'.Perm nodes) (hl : lines'.Perm lines) :
    Content t nodes' lines' r where
  get?_eq_some_iff := h.get?_eq_some_iff.trans hn.mem_iff.symm
  nodup_nodes := (hn.map _).nodup_iff.2 h.nodup_nodes
  nodup_lines := (hl.map _).nodup_iff.2 h.nodup_lines
  ends l hin := by
    obtain ⟨a, b, hne, ha, hb⟩ := h.ends l (hl.mem_iff.1 hin)
    exact ⟨a, b, hne, hn.mem_iff.2 ha, hn.mem_iff.2 hb⟩
  eq_of_ends l hin l' hin' := h.eq_of_ends l (hl.mem_iff.1 hin) l' (hl.mem_iff.1 hin')
  relations {a b handle} := by simp only [h.relations, hl.mem_iff]

theorem empty : Content .empty [] [] .nothing where
  get?_eq_some_iff := by simp
  nodup_nodes := List.nodup_nil
  nodup_lines := List.nodup_nil
  ends := by simp
  eq_of_ends := by simp
  relations := by simp [Relations.nothing]

/-- A node stands for one id. -/
theorem id_unique (h : Content t nodes lines r) (ha : (n, a) ∈ nodes) (hb : (n, b) ∈ nodes) :
    a = b :=
  (Prod.mk.inj (List.inj_on_of_nodup_map h.nodup_nodes ha hb rfl)).2

theorem lookup_eq (h : Content t nodes lines r) (hn : (n, id) ∈ nodes) :
    nodes.lookup n = some id := by
  obtain ⟨before, behind, rfl⟩ := List.mem_iff_append.1 hn
  refine List.lookup_eq_some_iff.2 ⟨before, behind, rfl, fun p hp => ?_⟩
  have hnodup := h.nodup_nodes
  rw [List.map_append, List.nodup_append] at hnodup
  exact bne_iff_ne.2
    (hnodup.2.2 _ (List.mem_map_of_mem hp) _ (List.mem_map_of_mem List.mem_cons_self)).symm

/-- The line between two nodes, if there is one, is the only one. -/
theorem find?_joins_iff (h : Content t nodes lines r) :
    lines.find? (·.joins i j) = some l ↔ l ∈ lines ∧ l.ends = s(i, j) := by
  constructor
  · intro hfind
    have hjoins : l.joins i j = true := by simpa using List.find?_some hfind
    exact ⟨List.mem_of_find?_eq_some hfind, NodeLine.joins_iff.1 hjoins⟩
  · rintro ⟨hl, hends⟩
    cases hfind : lines.find? (·.joins i j) with
    | none =>
      exact absurd (NodeLine.joins_iff.2 hends) (List.find?_eq_none.1 hfind l hl)
    | some l' =>
      have hjoins : l'.joins i j = true := by simpa using List.find?_some hfind
      have hends' := (NodeLine.joins_iff.1 hjoins).trans hends.symm
      rw [h.eq_of_ends l' (List.mem_of_find?_eq_some hfind) l hl hends']

/-- The relation of two ids is the line between their nodes. -/
theorem relation_eq (h : Content t nodes lines r) (ha : t.get? a = some i)
    (hb : t.get? b = some j) :
    r s(a, b) = (lines.find? (·.joins i j)).map NodeLine.handle := by
  apply Option.ext
  intro handle
  rw [h.relations, Option.map_eq_some_iff]
  simp only [h.find?_joins_iff, ha, hb, Option.some.injEq]
  constructor
  · rintro ⟨_, _, rfl, rfl, l, hl, hends, hhandle⟩
    exact ⟨l, ⟨hl, hends⟩, hhandle⟩
  · rintro ⟨l, ⟨hl, hends⟩, hhandle⟩
    exact ⟨i, j, rfl, rfl, l, hl, hends, hhandle⟩

/-- An id without a node has no relations. -/
theorem relation_eq_none (h : Content t nodes lines r) (ha : t.get? a = none) (b : String) :
    r s(a, b) = none := by
  rw [Option.eq_none_iff_forall_ne_some]
  intro handle hr
  obtain ⟨i, -, hi, -⟩ := h.relations.1 hr
  rw [ha] at hi
  cases hi

theorem relation_self (h : Content t nodes lines r) (a : String) : r s(a, a) = none := by
  rw [Option.eq_none_iff_forall_ne_some]
  intro handle hr
  obtain ⟨i, j, hi, hj, l, hl, hends, -⟩ := h.relations.1 hr
  obtain ⟨c, d, hne, hc, hd⟩ := h.ends l hl
  obtain rfl := Option.some.inj (hi.symm.trans hj)
  obtain ⟨hs, ht⟩ := or_self_iff.1 (Sym2.eq_iff.1 hends)
  rw [hs] at hc
  rw [ht] at hd
  exact hne (h.id_unique hc hd)

/-- The ids at the ends of a line, with the handle of their relation. -/
theorem relation_of_mem (h : Content t nodes lines r) (hl : l ∈ lines) :
    ∃ a b, (l.source, a) ∈ nodes ∧ (l.target, b) ∈ nodes ∧ a ≠ b ∧
      r s(a, b) = some l.handle := by
  obtain ⟨a, b, hne, ha, hb⟩ := h.ends l hl
  exact ⟨a, b, ha, hb, hne,
    h.relations.2 ⟨_, _, h.get?_eq_some_iff.2 ha, h.get?_eq_some_iff.2 hb, l, hl, rfl, rfl⟩⟩

/-- What lies across from the node of an id is an id that it is related to. -/
theorem across_of_touches (h : Content t nodes lines r) (hid : t.get? id = some n)
    (hl : l ∈ lines) (ht : l.touches n = true) :
    ∃ other, (l.across n, other) ∈ nodes ∧ r s(id, other) = some l.handle := by
  have hends := NodeLine.touches_iff.1 ht
  have hacross : ∃ other, (l.across n, other) ∈ nodes := by
    obtain ⟨a, b, -, ha, hb⟩ := h.ends l hl
    rcases Sym2.eq_iff.1 hends with ⟨-, he⟩ | ⟨he, -⟩
    · exact ⟨b, he ▸ hb⟩
    · exact ⟨a, he ▸ ha⟩
  obtain ⟨other, hother⟩ := hacross
  exact ⟨other, hother,
    h.relations.2 ⟨n, _, hid, h.get?_eq_some_iff.2 hother, l, hl, hends, rfl⟩⟩

theorem exists_touches (h : Content t nodes lines r) {other : String} {handle : Option Nat}
    (hid : t.get? id = some n) (hr : r s(id, other) = some handle) :
    ∃ l ∈ lines, l.touches n = true ∧ (l.across n, other) ∈ nodes ∧ l.handle = handle := by
  obtain ⟨i, j, hi, hj, l, hl, hends, hhandle⟩ := h.relations.1 hr
  obtain rfl := Option.some.inj (hid.symm.trans hi)
  obtain ⟨ht, hacross⟩ := NodeLine.touches_of_ends hends
  exact ⟨l, hl, ht, hacross ▸ h.get?_eq_some_iff.1 hj, hhandle⟩

/-! ### Steps -/

/-- A new node for an id that has none. -/
theorem addNode (h : Content t nodes lines r) (hid : t.get? id = none)
    (hn : n ∉ nodes.map Prod.fst) : Content (t.insert id n) ((n, id) :: nodes) lines r where
  get?_eq_some_iff {id' n'} := by
    rw [SortedMap.get?_insert, List.mem_cons, ← h.get?_eq_some_iff, Prod.mk.injEq]
    by_cases he : id' = id
    · simp [he, hid, eq_comm]
    · simp [he]
  nodup_nodes := List.nodup_cons.2 ⟨hn, h.nodup_nodes⟩
  nodup_lines := h.nodup_lines
  ends l hl := by
    obtain ⟨a, b, hne, ha, hb⟩ := h.ends l hl
    exact ⟨a, b, hne, List.mem_cons_of_mem _ ha, List.mem_cons_of_mem _ hb⟩
  eq_of_ends := h.eq_of_ends
  relations {a b handle} := by
    have hold : ∀ {c k}, t.get? c = some k → (t.insert id n).get? c = some k := fun {c k} hc => by
      rw [SortedMap.get?_insert, if_neg (fun he => by rw [he, hid] at hc; cases hc), hc]
    -- No line ends at the new node, so its number stands for no end of a relation.
    have hnew : ∀ {c k}, (t.insert id n).get? c = some k → k ∈ nodes.map Prod.fst →
        t.get? c = some k := fun {c k} hc hk => by
      rw [SortedMap.get?_insert] at hc
      split at hc
      · cases hc
        exact absurd hk hn
      · exact hc
    rw [h.relations]
    constructor
    · rintro ⟨i, j, hi, hj, hl⟩
      exact ⟨i, j, hold hi, hold hj, hl⟩
    · rintro ⟨i, j, hi, hj, l, hl, hends, hhandle⟩
      obtain ⟨c, d, -, hc, hd⟩ := h.ends l hl
      have hij : i ∈ nodes.map Prod.fst ∧ j ∈ nodes.map Prod.fst := by
        rcases Sym2.eq_iff.1 hends with ⟨hs, ht⟩ | ⟨hs, ht⟩
        · exact ⟨hs ▸ List.mem_map_of_mem hc, ht ▸ List.mem_map_of_mem hd⟩
        · exact ⟨ht ▸ List.mem_map_of_mem hd, hs ▸ List.mem_map_of_mem hc⟩
      exact ⟨i, j, hnew hi hij.1, hnew hj hij.2, l, hl, hends, hhandle⟩

/-- Nodes of distinct ids are at the ends of one relation only. -/
theorem ends_eq_iff (h : Content t nodes lines r) {c d : String} {k m : Nat}
    (ha : t.get? a = some i) (hb : t.get? b = some j) (hc : t.get? c = some k)
    (hd : t.get? d = some m) : s(i, j) = s(k, m) ↔ s(a, b) = s(c, d) := by
  have heq : ∀ {x y p q}, t.get? x = some p → t.get? y = some q → (p = q ↔ x = y) :=
    fun {x y p q} hx hy => by
      constructor
      · rintro rfl
        exact h.id_unique (h.get?_eq_some_iff.1 hx) (h.get?_eq_some_iff.1 hy)
      · rintro rfl
        exact Option.some.inj (hx.symm.trans hy)
  rw [Sym2.eq_iff, Sym2.eq_iff, heq ha hc, heq hb hd, heq ha hd, heq hb hc]

theorem ends_ne (h : Content t nodes lines r) (ha : t.get? a = some i) (hb : t.get? b = some j)
    (hr : r s(a, b) = none) (hl : l ∈ lines) : l.ends ≠ s(i, j) := by
  intro hends
  rw [h.relations.2 ⟨i, j, ha, hb, l, hl, hends, rfl⟩] at hr
  cases hr

/-- A new line between the nodes of two ids that are not related. -/
theorem addLine (h : Content t nodes lines r) {number : Nat} (hne : a ≠ b)
    (ha : t.get? a = some i) (hb : t.get? b = some j) (hr : r s(a, b) = none)
    (hn : number ∉ lines.map NodeLine.number) :
    Content t nodes (⟨number, i, j, none⟩ :: lines) (r.after (.relate a b)) where
  get?_eq_some_iff := h.get?_eq_some_iff
  nodup_nodes := h.nodup_nodes
  nodup_lines := List.nodup_cons.2 ⟨hn, h.nodup_lines⟩
  ends l hl := by
    rcases List.mem_cons.1 hl with rfl | hl
    · exact ⟨a, b, hne, h.get?_eq_some_iff.1 ha, h.get?_eq_some_iff.1 hb⟩
    · exact h.ends l hl
  eq_of_ends l hl l' hl' hends := by
    rcases List.mem_cons.1 hl with rfl | hl <;> rcases List.mem_cons.1 hl' with rfl | hl'
    · rfl
    · exact absurd hends.symm (h.ends_ne ha hb hr hl')
    · exact absurd hends (h.ends_ne ha hb hr hl)
    · exact h.eq_of_ends l hl l' hl' hends
  relations {c d handle} := by
    simp only [Relations.after_relate, hne, hr, ne_eq, not_false_eq_true, true_and]
    constructor
    · intro hafter
      by_cases hcd : s(c, d) = s(a, b)
      · rw [if_pos hcd] at hafter
        obtain ⟨k, m, hk, hm, hends⟩ : ∃ k m, t.get? c = some k ∧ t.get? d = some m ∧
            s(i, j) = s(k, m) := by
          rcases Sym2.eq_iff.1 hcd with ⟨rfl, rfl⟩ | ⟨rfl, rfl⟩
          · exact ⟨i, j, ha, hb, rfl⟩
          · exact ⟨j, i, hb, ha, Sym2.eq_swap⟩
        exact ⟨k, m, hk, hm, _, List.mem_cons_self, hends, Option.some.inj hafter⟩
      · rw [if_neg hcd] at hafter
        obtain ⟨k, m, hk, hm, l, hl, hends, hhandle⟩ := h.relations.1 hafter
        exact ⟨k, m, hk, hm, l, List.mem_cons_of_mem _ hl, hends, hhandle⟩
    · rintro ⟨k, m, hk, hm, l, hl, hends, hhandle⟩
      rcases List.mem_cons.1 hl with rfl | hl
      · rw [if_pos ((h.ends_eq_iff hk hm ha hb).1 hends.symm), ← hhandle]
      · have hcd : s(c, d) ≠ s(a, b) := fun hcd =>
          h.ends_ne ha hb hr hl (hends.trans ((h.ends_eq_iff hk hm ha hb).2 hcd))
        rw [if_neg hcd]
        exact h.relations.2 ⟨k, m, hk, hm, l, hl, hends, hhandle⟩

/-- A handle for the line between the nodes of two ids. -/
theorem setHandle (h : Content t nodes lines r) (ha : t.get? a = some i) (hb : t.get? b = some j)
    (hl : l ∈ lines) (hends : l.ends = s(i, j)) (handle : Nat) :
    Content t nodes (lines.map (NodeLine.draw l.number handle)) (r.after (.draw a b handle)) := by
  have hrel : (r s(a, b)).isSome = true := by
    rw [h.relations.2 ⟨i, j, ha, hb, l, hl, hends, rfl⟩]
    rfl
  -- Among the lines, the drawn one is the one that joins the two nodes.
  have hhandle : ∀ {l'}, l' ∈ lines →
      (l'.draw l.number handle).handle = if l'.ends = s(i, j) then some handle else l'.handle :=
    fun {l'} hl' => by
      by_cases he : l'.ends = s(i, j)
      · rw [if_pos he, h.eq_of_ends l' hl' l hl (he.trans hends.symm)]
        simp [NodeLine.draw]
      · have hne : l'.number ≠ l.number := fun hn =>
          he (List.inj_on_of_nodup_map h.nodup_lines hl' hl hn ▸ hends)
        rw [if_neg he]
        rw [NodeLine.draw, if_neg hne]
  exact
    { get?_eq_some_iff := h.get?_eq_some_iff
      nodup_nodes := h.nodup_nodes
      nodup_lines := by
        simpa [Function.comp_def] using h.nodup_lines
      ends := by
        simpa using h.ends
      eq_of_ends := by
        simp only [List.forall_mem_map, NodeLine.ends_draw]
        exact fun l₁ hl₁ l₂ hl₂ he => by rw [h.eq_of_ends l₁ hl₁ l₂ hl₂ he]
      relations := fun {c d handle'} => by
        simp only [Relations.after_draw, hrel, true_and, List.mem_map]
        constructor
        · intro hafter
          obtain ⟨old, hold⟩ : ∃ old, r s(c, d) = some old := by
            by_cases hcd : s(c, d) = s(a, b)
            · exact Option.isSome_iff_exists.1 (hcd ▸ hrel)
            · exact ⟨handle', (if_neg hcd).symm.trans hafter⟩
          obtain ⟨k, m, hk, hm, l', hl', hends', hold'⟩ := h.relations.1 hold
          refine ⟨k, m, hk, hm, _, ⟨l', hl', rfl⟩, (l'.ends_draw _ _).trans hends', ?_⟩
          rw [hhandle hl', hends', hold']
          simp only [h.ends_eq_iff hk hm ha hb]
          by_cases hcd : s(c, d) = s(a, b)
          · rw [if_pos hcd] at hafter ⊢
            exact Option.some.inj hafter
          · rw [if_neg hcd, hold] at hafter
            rw [if_neg hcd]
            exact Option.some.inj hafter
        · rintro ⟨k, m, hk, hm, _, ⟨l', hl', rfl⟩, hends', hhandle'⟩
          rw [NodeLine.ends_draw] at hends'
          rw [hhandle hl', hends'] at hhandle'
          simp only [h.ends_eq_iff hk hm ha hb] at hhandle'
          rw [h.relations.2 ⟨k, m, hk, hm, l', hl', hends', rfl⟩, ← hhandle']
          split <;> rfl }

/-- The node of an id goes, and with it all lines at it. -/
theorem erase (h : Content t nodes lines r) (hid : t.get? id = some n) :
    Content (t.erase id) (nodes.filter (·.1 != n)) (lines.filter fun l => !l.touches n)
      (r.after (.forget id)) := by
  have hnode : ∀ {c k}, (k, c) ∈ nodes → (k ≠ n ↔ c ≠ id) := fun {c k} hc => by
    refine not_congr ⟨?_, ?_⟩
    · rintro rfl
      exact h.id_unique hc (h.get?_eq_some_iff.1 hid)
    · rintro rfl
      exact Option.some.inj ((h.get?_eq_some_iff.2 hc).symm.trans hid)
  have htable : ∀ {c k}, (t.erase id).get? c = some k ↔ c ≠ id ∧ t.get? c = some k :=
    fun {c k} => by
      rw [SortedMap.get?_erase]
      by_cases hc : c = id <;> simp [hc]
  exact
    { get?_eq_some_iff := fun {c k} => by
        rw [htable, List.mem_filter, h.get?_eq_some_iff, bne_iff_ne]
        exact ⟨fun ⟨hne, hc⟩ => ⟨hc, (hnode hc).2 hne⟩, fun ⟨hc, hne⟩ => ⟨(hnode hc).1 hne, hc⟩⟩
      nodup_nodes := h.nodup_nodes.sublist (List.filter_sublist.map _)
      nodup_lines := h.nodup_lines.sublist (List.filter_sublist.map _)
      ends := fun l hl => by
        obtain ⟨hl, ht⟩ := List.mem_filter.1 hl
        obtain ⟨a, b, hne, ha, hb⟩ := h.ends l hl
        simp only [NodeLine.touches, Bool.not_or, Bool.and_eq_true, Bool.not_eq_true',
          beq_eq_false_iff_ne] at ht
        exact ⟨a, b, hne, List.mem_filter.2 ⟨ha, bne_iff_ne.2 ht.1⟩,
          List.mem_filter.2 ⟨hb, bne_iff_ne.2 ht.2⟩⟩
      eq_of_ends := fun l hl l' hl' =>
        h.eq_of_ends l (List.mem_filter.1 hl).1 l' (List.mem_filter.1 hl').1
      relations := fun {a b handle} => by
        rw [Relations.after_forget_eq_some_iff, h.relations]
        simp only [htable, List.mem_filter]
        constructor
        · rintro ⟨hne, i, j, hi, hj, l, hl, hends, hhandle⟩
          have hni := (hnode (h.get?_eq_some_iff.1 hi)).2 hne.1
          have hnj := (hnode (h.get?_eq_some_iff.1 hj)).2 hne.2
          exact ⟨i, j, ⟨hne.1, hi⟩, ⟨hne.2, hj⟩, l,
            ⟨hl, (NodeLine.not_touches_iff hends).2 ⟨hni, hnj⟩⟩, hends, hhandle⟩
        · rintro ⟨i, j, ⟨hna, hi⟩, ⟨hnb, hj⟩, l, ⟨hl, -⟩, hends, hhandle⟩
          exact ⟨⟨hna, hnb⟩, i, j, hi, hj, l, hl, hends, hhandle⟩ }

theorem forget_of_none (h : Content t nodes lines r) (hid : t.get? id = none) :
    r.after (.forget id) = r := by
  funext p
  simp only [Relations.after]
  split
  · rename_i hmem
    obtain ⟨other, rfl⟩ := hmem
    exact (h.relation_eq_none hid other).symm
  · rfl

end Network.Content

/-! ## Networks -/

namespace Network

variable {σ : Type} {S : NodeStore σ} {x : Network σ} {m : Relations} {a b id : String}
  {n : Nat} {l : NodeLine}

/-- A network keeps some relations: they are what its nodes, lines and table say together. -/
def Keeps (S : NodeStore σ) (x : Network σ) (m : Relations) : Prop :=
  Content x.numbers (S.nodes x.store) (S.lines x.store) m

/-- What a network says to a change, and the network after it. -/
def change (S : NodeStore σ) (x : Network σ) : GraphChange → GraphAnswer × Network σ
  | .relate a b => (.related (x.relate S a b).1, (x.relate S a b).2)
  | .draw a b handle => (.replaced (x.setHandle S a b handle).1, (x.setHandle S a b handle).2)
  | .forget id => (.cleared (x.erase S id).1, (x.erase S id).2)

def ofChanges (S : NodeStore σ) (cs : List GraphChange) : Network σ :=
  cs.foldl (fun x c => (x.change S c).2) (empty S)

def view (S : NodeStore σ) (x : Network σ) : GraphView where
  contains := x.contains S
  edgesOf := x.edgesOf S
  degree := x.degree S
  size := x.size S
  pairs := x.pairs S

/-- A list in which no two keys are the same is strictly in their order once it is sorted. -/
theorem pairwise_lt_mergeSort {α β : Type} [LinearOrder β] {key : α → β} {le : α → α → Bool}
    (hle : ∀ x y, le x y = true ↔ key x ≤ key y) {xs : List α} (hnodup : (xs.map key).Nodup) :
    (xs.mergeSort le).Pairwise fun x y => key x < key y := by
  have hsorted : (xs.mergeSort le).Pairwise fun x y => le x y = true := List.pairwise_mergeSort
    (fun x y z hxy hyz => (hle x z).2 (((hle x y).1 hxy).trans ((hle y z).1 hyz)))
    (fun x y => by simpa only [Bool.or_eq_true, hle] using le_total (key x) (key y)) xs
  have hdistinct : ((xs.mergeSort le).map key).Nodup :=
    ((List.mergeSort_perm xs le).map key).nodup_iff.2 hnodup
  exact (hsorted.and (List.pairwise_map.1 hdistinct)).imp fun ⟨hxy, hne⟩ =>
    lt_of_le_of_ne ((hle _ _).1 hxy) hne

theorem Keeps.label_eq (h : x.Keeps S m) (hn : (n, id) ∈ S.nodes x.store) : x.label S n = id := by
  rw [label, h.lookup_eq hn, Option.getD_some]

theorem mem_linesAt : l ∈ x.linesAt S n ↔ l ∈ S.lines x.store ∧ l.touches n = true :=
  List.mem_filter

theorem Keeps.contains_eq (h : x.Keeps S m) (a b : String) :
    x.contains S a b = (m s(a, b)).isSome := by
  unfold contains lineBetween?
  cases ha : x.numbers.get? a with
  | none => rw [h.relation_eq_none ha]; rfl
  | some i =>
    cases hb : x.numbers.get? b with
    | none => rw [Sym2.eq_swap, h.relation_eq_none hb]; rfl
    | some j => rw [h.relation_eq ha hb, Option.isSome_map]

/-! ### The relations of an id -/

theorem mem_edgesOf_of_get? {e : Edge} (hid : x.numbers.get? id = some n) :
    e ∈ x.edgesOf S id ↔ ∃ l ∈ S.lines x.store, l.touches n = true ∧
      ⟨x.label S (l.across n), l.handle⟩ = e := by
  unfold edgesOf
  simp only [hid, (List.mergeSort_perm _ _).mem_iff, List.mem_map, mem_linesAt, and_assoc]

theorem Keeps.mem_edgesOf_iff (h : x.Keeps S m) {e : Edge} :
    e ∈ x.edgesOf S id ↔ m s(id, e.other) = some e.handle := by
  cases hid : x.numbers.get? id with
  | none =>
    rw [h.relation_eq_none hid, edgesOf, hid]
    simp
  | some n =>
    rw [mem_edgesOf_of_get? hid]
    constructor
    · rintro ⟨l, hl, ht, rfl⟩
      obtain ⟨other, hother, hm⟩ := h.across_of_touches hid hl ht
      rw [h.label_eq hother, hm]
    · intro hm
      obtain ⟨l, hl, ht, hother, hhandle⟩ := h.exists_touches hid hm
      exact ⟨l, hl, ht, by rw [h.label_eq hother, hhandle]⟩

/-- The lines at a node lead to different ids. -/
theorem Keeps.nodup_others (h : x.Keeps S m) (hid : x.numbers.get? id = some n) :
    ((x.linesAt S n).map fun l => x.label S (l.across n)).Nodup := by
  refine List.Nodup.map_on (fun l hl l' hl' he => ?_) (h.nodup_lines.of_map.filter _)
  obtain ⟨hl, ht⟩ := mem_linesAt.1 hl
  obtain ⟨hl', ht'⟩ := mem_linesAt.1 hl'
  obtain ⟨other, hother, -⟩ := h.across_of_touches hid hl ht
  obtain ⟨other', hother', -⟩ := h.across_of_touches hid hl' ht'
  rw [h.label_eq hother, h.label_eq hother'] at he
  subst he
  have hacross : l.across n = l'.across n :=
    Option.some.inj ((h.get?_eq_some_iff.2 hother).symm.trans (h.get?_eq_some_iff.2 hother'))
  exact h.eq_of_ends l hl l' hl' (by
    rw [NodeLine.touches_iff.1 ht, NodeLine.touches_iff.1 ht', hacross])

theorem Keeps.pairwise_edgesOf (h : x.Keeps S m) (id : String) :
    (x.edgesOf S id).Pairwise fun e e' => e.other < e'.other := by
  unfold edgesOf
  cases hid : x.numbers.get? id with
  | none => exact List.Pairwise.nil
  | some n =>
    refine pairwise_lt_mergeSort (fun e e' => decide_eq_true_iff) ?_
    rw [List.map_map]
    exact h.nodup_others hid

theorem degree_eq_length (x : Network σ) (id : String) :
    x.degree S id = (x.edgesOf S id).length := by
  unfold degree edgesOf
  cases x.numbers.get? id with
  | none => rfl
  | some n => simp

/-! ### All pairs -/

theorem Keeps.labels_of_mem (h : x.Keeps S m) (hl : l ∈ S.lines x.store) :
    ∃ a b, (l.source, a) ∈ S.nodes x.store ∧ (l.target, b) ∈ S.nodes x.store ∧
      (x.labels S l).1 < (x.labels S l).2 ∧
      s((x.labels S l).1, (x.labels S l).2) = s(a, b) ∧ m s(a, b) = some l.handle := by
  obtain ⟨a, b, ha, hb, hne, hm⟩ := h.relation_of_mem hl
  refine ⟨a, b, ha, hb, ?_⟩
  unfold labels
  rw [h.label_eq ha, h.label_eq hb]
  by_cases hle : a ≤ b
  · simp only [if_pos hle]
    exact ⟨lt_of_le_of_ne hle hne, trivial, hm⟩
  · simp only [if_neg hle]
    exact ⟨not_le.1 hle, Sym2.eq_swap, hm⟩

theorem Keeps.mem_pairs_iff (h : x.Keeps S m) :
    (a, b) ∈ x.pairs S ↔ a < b ∧ (m s(a, b)).isSome = true := by
  unfold pairs
  simp only [(List.mergeSort_perm _ _).mem_iff, List.mem_map]
  constructor
  · rintro ⟨l, hl, he⟩
    obtain ⟨c, d, -, -, hlt, hends, hm⟩ := h.labels_of_mem hl
    rw [he] at hlt hends
    exact ⟨hlt, by rw [hends, hm]; rfl⟩
  · rintro ⟨hlt, hm⟩
    obtain ⟨handle, hm⟩ := Option.isSome_iff_exists.1 hm
    obtain ⟨i, j, hi, hj, l, hl, hends, -⟩ := h.relations.1 hm
    obtain ⟨c, d, hc, hd, hlt', hends', -⟩ := h.labels_of_mem hl
    have hcd : s(c, d) = s(a, b) := (h.ends_eq_iff (h.get?_eq_some_iff.2 hc)
      (h.get?_eq_some_iff.2 hd) hi hj).1 hends
    rcases Sym2.eq_iff.1 (hends'.trans hcd) with ⟨h1, h2⟩ | ⟨h1, h2⟩
    · exact ⟨l, hl, Prod.ext h1 h2⟩
    · rw [h1, h2] at hlt'
      exact absurd hlt' (String.lt_asymm hlt)

theorem Keeps.pairwise_pairs (h : x.Keeps S m) :
    (x.pairs S).Pairwise fun p q => p.1 < q.1 ∨ p.1 = q.1 ∧ p.2 < q.2 := by
  have hnodup : ((S.lines x.store).map fun l => toLex (x.labels S l)).Nodup := by
    refine List.Nodup.map_on (fun l hl l' hl' he => ?_) h.nodup_lines.of_map
    obtain ⟨a, b, ha, hb, -, hends, -⟩ := h.labels_of_mem hl
    obtain ⟨c, d, hc, hd, -, hends', -⟩ := h.labels_of_mem hl'
    rw [toLex_inj.1 he, hends'] at hends
    exact h.eq_of_ends l hl l' hl' ((h.ends_eq_iff (h.get?_eq_some_iff.2 ha)
      (h.get?_eq_some_iff.2 hb) (h.get?_eq_some_iff.2 hc) (h.get?_eq_some_iff.2 hd)).2 hends.symm)
  have hsorted : (x.pairs S).Pairwise fun p q => toLex p < toLex q := pairwise_lt_mergeSort
    (fun p q => by rw [decide_eq_true_iff, Prod.Lex.toLex_le_toLex])
    (by rwa [List.map_map])
  exact hsorted.imp Prod.Lex.toLex_lt_toLex.1

/-- A network shows what it keeps. -/
theorem Keeps.shownBy (h : x.Keeps S m) : m.ShownBy (x.view S) :=
  .of_lists h.relation_self h.contains_eq (fun _ _ => h.mem_edgesOf_iff) h.pairwise_edgesOf
    x.degree_eq_length (fun _ _ => h.mem_pairs_iff) h.pairwise_pairs
    (by simp [view, size, pairs])

/-! ### Changes -/

theorem keeps_empty (hS : S.Lawful) : (Network.empty S).Keeps S .nothing := by
  unfold Keeps Network.empty
  rw [hS.nodes_empty, hS.lines_empty]
  exact Content.empty

/-- An id has a node once it was asked for; nothing else is different then. -/
theorem Keeps.node (hS : S.Lawful) (h : x.Keeps S m) (id : String) :
    (x.node S id).2.Keeps S m ∧ (x.node S id).2.numbers.get? id = some (x.node S id).1 ∧
      ∀ {a i}, x.numbers.get? a = some i → (x.node S id).2.numbers.get? a = some i := by
  unfold Network.node
  cases hid : x.numbers.get? id with
  | some n => exact ⟨h, hid, fun ha => ha⟩
  | none =>
    refine ⟨(h.addNode hid (hS.number_addNode x.store id)).perm (hS.nodes_addNode x.store id)
      (hS.lines_addNode x.store id), ?_, fun {a i} ha => ?_⟩
    · rw [SortedMap.get?_insert, if_pos rfl]
    · have hne : a ≠ id := fun he => by
        rw [he, hid] at ha
        cases ha
      rw [SortedMap.get?_insert, if_neg hne, ha]

theorem Keeps.relate (hS : S.Lawful) (h : x.Keeps S m) (a b : String) :
    ((x.relate S a b).1 = true ↔ a ≠ b ∧ m s(a, b) = none) ∧
      (x.relate S a b).2.Keeps S (m.after (.relate a b)) := by
  unfold Network.relate
  by_cases hab : a = b
  · have hsame : m.after (.relate a b) = m := by
      funext p
      rw [Relations.after_relate, if_neg (by simp [hab])]
    rw [if_pos hab, hsame]
    exact ⟨by simp [hab], h⟩
  · rw [if_neg hab]
    obtain ⟨hy, ha, -⟩ := h.node hS a
    obtain ⟨hz, hb, hold⟩ := hy.node hS b
    have ha := hold ha
    have hline := hz.relation_eq ha hb
    simp only [lineBetween?]
    cases hfind : (S.lines ((x.node S a).2.node S b).2.store).find?
        (·.joins (x.node S a).1 ((x.node S a).2.node S b).1) with
    | some l =>
      rw [hfind, Option.map_some] at hline
      have hsame : m.after (.relate a b) = m := by
        funext p
        rw [Relations.after_relate, if_neg (by simp [hline])]
      rw [hsame]
      exact ⟨by simp [hline], hz⟩
    | none =>
      rw [hfind, Option.map_none] at hline
      refine ⟨by simp [hab, hline], ?_⟩
      obtain ⟨number, hnumber, hlines⟩ := hS.lines_addLine _ _ _
        (List.mem_map_of_mem (hz.get?_eq_some_iff.1 ha))
        (List.mem_map_of_mem (hz.get?_eq_some_iff.1 hb))
      exact (hz.addLine hab ha hb hline hnumber).perm (hS.nodes_addLine _ _ _) hlines

theorem Keeps.setHandle (hS : S.Lawful) (h : x.Keeps S m) (a b : String) (handle : Nat) :
    (x.setHandle S a b handle).1 = (m s(a, b)).join ∧
      (x.setHandle S a b handle).2.Keeps S (m.after (.draw a b handle)) := by
  have hsame : m s(a, b) = none → m.after (.draw a b handle) = m := fun hm => by
    funext p
    rw [Relations.after_draw, if_neg (by simp [hm])]
  unfold Network.setHandle
  cases ha : x.numbers.get? a with
  | none =>
    have hm := h.relation_eq_none ha b
    exact ⟨by simp [hm], (hsame hm).symm ▸ h⟩
  | some i =>
    cases hb : x.numbers.get? b with
    | none =>
      have hm := h.relation_eq_none hb a
      rw [Sym2.eq_swap] at hm
      exact ⟨by simp [hm], (hsame hm).symm ▸ h⟩
    | some j =>
      have hline := h.relation_eq ha hb
      simp only [lineBetween?]
      cases hfind : (S.lines x.store).find? (·.joins i j) with
      | none =>
        rw [hfind, Option.map_none] at hline
        exact ⟨by simp [hline], (hsame hline).symm ▸ h⟩
      | some l =>
        rw [hfind, Option.map_some] at hline
        obtain ⟨hl, hends⟩ := h.find?_joins_iff.1 hfind
        exact ⟨by simp [hline], (Content.setHandle h ha hb hl hends handle).perm
          (hS.nodes_setHandle _ _ _) (hS.lines_setHandle _ _ _)⟩

theorem Keeps.erase (hS : S.Lawful) (h : x.Keeps S m) (id : String) :
    (x.erase S id).1.Perm ((x.edgesOf S id).filterMap Edge.handle) ∧
      (x.erase S id).2.Keeps S (m.after (.forget id)) := by
  unfold Network.erase edgesOf
  cases hid : x.numbers.get? id with
  | none => exact ⟨.refl _, (h.forget_of_none hid).symm ▸ h⟩
  | some n =>
    refine ⟨?_, (Content.erase h hid).perm (hS.nodes_removeNode _ _) (hS.lines_removeNode _ _)⟩
    refine List.Perm.trans (.of_eq ?_) ((List.mergeSort_perm _ _).filterMap _).symm
    rw [List.filterMap_map]
    rfl

/-- A network answers a change as the relations do that it keeps, and keeps them as they are
then. -/
theorem Keeps.change (hS : S.Lawful) (h : x.Keeps S m) (c : GraphChange) :
    m.Answers c (x.change S c).1 ∧ (x.change S c).2.Keeps S (m.after c) := by
  cases c with
  | relate a b => exact h.relate hS a b
  | draw a b handle => exact h.setHandle hS a b handle
  | forget id =>
    obtain ⟨hperm, hkeeps⟩ := h.erase hS id
    exact ⟨Relations.answers_forget (v := x.view S) (fun _ => h.mem_edgesOf_iff)
      (h.pairwise_edgesOf id) hperm, hkeeps⟩

theorem keeps_ofChanges (hS : S.Lawful) (cs : List GraphChange) :
    (ofChanges S cs).Keeps S (.ofChanges cs) := by
  have hrun : ∀ (x : Network σ) (m : Relations), x.Keeps S m →
      (cs.foldl (fun x c => (x.change S c).2) x).Keeps S (cs.foldl Relations.after m) := by
    induction cs with
    | nil => exact fun x m h => h
    | cons c cs ih => exact fun x m h => ih _ _ (h.change hS c).2
  exact hrun _ .nothing (keeps_empty hS)

/-- **After any changes a graph is the map of its relations.** The link graph and a network over any
store that keeps what it is given show what is related, and look the same; and whatever change comes
next, both answer it as the map does. -/
theorem shows_relations_after_changes (hS : S.Lawful) (cs : List GraphChange) (c : GraphChange) :
    let m := Relations.ofChanges cs
    let g := LinkGraph.ofChanges cs
    let x := Network.ofChanges S cs
    (m.ShownBy g.view ∧ m.ShownBy (x.view S) ∧ x.view S = g.view) ∧
      m.Answers c (g.change c).1 ∧ m.Answers c (x.change S c).1 := by
  have hg := LinkGraph.keeps_ofChanges cs
  have hx := keeps_ofChanges hS cs
  exact ⟨⟨hg.shownBy, hx.shownBy, hx.shownBy.unique hg.shownBy⟩, hg.answers c,
    (hx.change hS c).1⟩

end Network

/-! ## A store -/

namespace NodeStore

/-- The least number that is not in a list. -/
def leastFree (taken : List Nat) : Nat :=
  ((List.range (taken.length + 1)).find? (· ∉ taken)).getD 0

theorem leastFree_not_mem (taken : List Nat) : leastFree taken ∉ taken := by
  unfold leastFree
  cases hfind : (List.range (taken.length + 1)).find? (· ∉ taken) with
  | some n => simpa using List.find?_some hfind
  | none =>
    have hsubset : List.range (taken.length + 1) ⊆ taken := fun n hn => by
      simpa using List.find?_eq_none.1 hfind n hn
    have hlength := (List.subperm_of_subset List.nodup_range hsubset).length_le
    rw [List.length_range] at hlength
    omega

/-- A store that gives the least free number, so that it uses the numbers of what was removed. -/
def least : NodeStore (List (Nat × String) × List NodeLine) where
  empty := ([], [])
  addNode s label :=
    let n := leastFree (s.1.map Prod.fst)
    (n, ((n, label) :: s.1, s.2))
  removeNode s n := (s.1.filter (·.1 != n), s.2.filter fun l => !l.touches n)
  addLine s m n := (s.1, ⟨leastFree (s.2.map NodeLine.number), m, n, none⟩ :: s.2)
  setHandle s number handle := (s.1, s.2.map (NodeLine.draw number handle))
  nodes := Prod.fst
  lines := Prod.snd

theorem lawful_least : least.Lawful where
  nodes_empty := rfl
  lines_empty := rfl
  number_addNode _ _ := leastFree_not_mem _
  nodes_addNode _ _ := .refl _
  lines_addNode _ _ := .refl _
  nodes_removeNode _ _ := .refl _
  lines_removeNode _ _ := .refl _
  nodes_addLine _ _ _ := .refl _
  lines_addLine _ _ _ _ _ := ⟨_, leastFree_not_mem _, .refl _⟩
  nodes_setHandle _ _ _ := .refl _
  lines_setHandle _ _ _ := .refl _

end NodeStore

/-- The node of an id that was removed is given to another id, and the old relation does not come
back with it, also when the id comes back. -/
theorem Network.shows_relations_after_changes_of_removed :
    let cs : List GraphChange :=
      [.relate "a" "b", .draw "a" "b" 7, .forget "b", .relate "c" "d", .relate "b" "c"]
    let x := Network.ofChanges NodeStore.least cs
    (x.numbers.get? "c" = some 1 ∧ x.numbers.get? "b" = some 3 ∧
        x.contains NodeStore.least "a" "c" = false ∧ x.contains NodeStore.least "a" "b" = false) ∧
      NodeStore.least.Lawful ∧
      (Relations.ofChanges cs).ShownBy (x.view NodeStore.least) ∧
      (Relations.ofChanges cs).Answers (.draw "b" "c" 8) (.replaced none) := by
  have h := Network.shows_relations_after_changes NodeStore.lawful_least
    [.relate "a" "b", .draw "a" "b" 7, .forget "b", .relate "c" "d", .relate "b" "c"]
    (.draw "b" "c" 8)
  exact ⟨by decide +kernel, NodeStore.lawful_least, h.1.2.1, h.2.2⟩

end Gazetteer
