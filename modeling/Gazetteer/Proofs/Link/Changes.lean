import Gazetteer.Proofs.Link.Relation
import Mathlib.Data.Set.Card
import Mathlib.Data.String.Basic

/-!
# A graph as a map from pairs of ids

What a graph of relations is for: it says which pairs of distinct ids are related, and with which
handle each relation is drawn. `Relations` is this map and nothing else, `Relations.after` is what a
change does to it, and `Relations.ShownBy` is what a graph must show of it. The link graph shows
this map after any changes, and answers each change as the map does (`LinkGraph.Keeps`).
-/

namespace Gazetteer

/-! ## Relations and changes -/

/-- The pairs of ids that are related, each with the handle of the line drawn for it. -/
abbrev Relations : Type := Sym2 String → Option (Option Nat)

/-- Something that is done to a graph. -/
inductive GraphChange where
  | relate (a b : String)
  /-- Draw a line for a relation. -/
  | draw (a b : String) (handle : Nat)
  /-- Give up all relations of an id. -/
  | forget (id : String)

/-- What a graph says about a change. -/
inductive GraphAnswer where
  /-- Whether the ids were not related before. -/
  | related (isNew : Bool)
  /-- The handle of the line that was drawn before. -/
  | replaced (old : Option Nat)
  /-- The handles of the lines that are to be cleared. -/
  | cleared (handles : List Nat)

/-- What can be seen of a graph. -/
@[ext]
structure GraphView where
  contains : String → String → Bool
  edgesOf : String → List Edge
  degree : String → Nat
  size : Nat
  pairs : List (String × String)

namespace Relations

/-- Nothing is related. -/
def nothing : Relations := fun _ => none

/-- Relating two distinct ids that are not related relates them without a line; a line is drawn for
a relation only; and what is forgotten is every relation of the id. All else stays. -/
def after (m : Relations) : GraphChange → Relations
  | .relate a b =>
    if a ≠ b ∧ m s(a, b) = none then Function.update m s(a, b) (some none) else m
  | .draw a b handle =>
    if (m s(a, b)).isSome then Function.update m s(a, b) (some (some handle)) else m
  | .forget id => fun p => if id ∈ p then none else m p

/-- What is related after some changes, from nothing on. -/
def ofChanges (cs : List GraphChange) : Relations := cs.foldl after nothing

/-- The answer to a change. To forget an id answers the handle of every relation of it, once. -/
def Answers (m : Relations) : GraphChange → GraphAnswer → Prop
  | .relate a b, .related isNew => isNew = true ↔ a ≠ b ∧ m s(a, b) = none
  | .draw a b _, .replaced old => old = (m s(a, b)).join
  | .forget id, .cleared handles =>
    ∀ handle, handles.count handle = {other | m s(id, other) = some (some handle)}.ncard
  | _, _ => False

/-- A view shows what is related: the relations of an id in the order of the other ids, with the
same handle from both sides, and all pairs in order, each once. -/
structure ShownBy (m : Relations) (v : GraphView) : Prop where
  distinct : ∀ a, m s(a, a) = none
  finite : {p | (m p).isSome}.Finite
  contains : ∀ a b, v.contains a b = (m s(a, b)).isSome
  mem_edgesOf : ∀ id e, e ∈ v.edgesOf id ↔ m s(id, e.other) = some e.handle
  sorted_edgesOf : ∀ id, (v.edgesOf id).Pairwise fun e e' => e.other < e'.other
  degree : ∀ id, v.degree id = {other | (m s(id, other)).isSome}.ncard
  size : v.size = {p | (m p).isSome}.ncard
  mem_pairs : ∀ a b, (a, b) ∈ v.pairs ↔ a < b ∧ (m s(a, b)).isSome
  sorted_pairs : v.pairs.Pairwise fun p q => p.1 < q.1 ∨ p.1 = q.1 ∧ p.2 < q.2

variable {m : Relations} {v : GraphView} {id : String} {handle : Nat} {handles : List Nat}

theorem after_relate (m : Relations) (a b : String) (p : Sym2 String) :
    m.after (.relate a b) p =
      if (a ≠ b ∧ m s(a, b) = none) ∧ p = s(a, b) then some none else m p := by
  unfold after
  by_cases h : a ≠ b ∧ m s(a, b) = none <;> simp [h, Function.update_apply]

theorem after_draw (m : Relations) (a b : String) (handle : Nat) (p : Sym2 String) :
    m.after (.draw a b handle) p =
      if (m s(a, b)).isSome = true ∧ p = s(a, b) then some (some handle) else m p := by
  unfold after
  by_cases h : (m s(a, b)).isSome = true <;> simp [h, Function.update_apply]

theorem after_forget_eq_some_iff {a b : String} {handle : Option Nat} :
    m.after (.forget id) s(a, b) = some handle ↔
      (a ≠ id ∧ b ≠ id) ∧ m s(a, b) = some handle := by
  simp only [after, Sym2.mem_iff]
  by_cases hab : id = a ∨ id = b
  · rw [if_pos hab]
    simp only [reduceCtorEq, false_iff, not_and]
    rintro ⟨ha, hb⟩
    exact (hab.elim (fun he => ha he.symm) fun he => hb he.symm).elim
  · rw [not_or] at hab
    simp [hab, Ne.symm hab.1, Ne.symm hab.2]

/-! ## Counting -/

/-- A list of the members of a set, each once, is as long as the set is large. -/
theorem ncard_eq_length {α : Type} {s : Set α} {xs : List α} (hn : xs.Nodup)
    (h : ∀ x, x ∈ xs ↔ x ∈ s) : s.ncard = xs.length := by
  classical
  have hs : s = ↑xs.toFinset := Set.ext fun x => by rw [Finset.mem_coe, List.mem_toFinset, h]
  rw [hs, Set.ncard_coe_finset, List.toFinset_card_of_nodup hn]

section Lists

variable (hmem : ∀ e, e ∈ v.edgesOf id ↔ m s(id, e.other) = some e.handle)
  (hsorted : (v.edgesOf id).Pairwise fun e e' => e.other < e'.other)

include hsorted

theorem nodup_others : ((v.edgesOf id).map Edge.other).Nodup :=
  List.pairwise_map.2 (hsorted.imp fun h => String.ne_of_lt h)

include hmem

theorem ncard_others :
    {other | (m s(id, other)).isSome}.ncard = (v.edgesOf id).length := by
  rw [ncard_eq_length (nodup_others hsorted), List.length_map]
  intro other
  rw [List.mem_map, Set.mem_ofPred_eq, Option.isSome_iff_exists]
  constructor
  · rintro ⟨e, he, rfl⟩
    exact ⟨e.handle, (hmem e).1 he⟩
  · rintro ⟨handle, h⟩
    exact ⟨⟨other, handle⟩, (hmem _).2 h, rfl⟩

/-- The handles of the relations of an id are what forgetting it answers. -/
theorem answers_forget (hperm : handles.Perm ((v.edgesOf id).filterMap Edge.handle)) :
    m.Answers (.forget id) (.cleared handles) := by
  intro handle
  have hn : (((v.edgesOf id).filter fun e => e.handle == some handle).map Edge.other).Nodup :=
    (nodup_others hsorted).sublist (List.filter_sublist.map _)
  rw [ncard_eq_length hn, List.length_map, hperm.count_eq, List.count, List.countP_filterMap,
    List.countP_eq_length_filter]
  · refine congrArg List.length (List.filter_congr fun e _ => ?_)
    cases e.handle with
    | none => rfl
    | some h => simp
  · intro other
    simp only [List.mem_map, List.mem_filter, beq_iff_eq, Set.mem_ofPred_eq]
    constructor
    · rintro ⟨e, ⟨he, hh⟩, rfl⟩
      rw [(hmem e).1 he, hh]
    · intro h
      exact ⟨⟨other, some handle⟩, ⟨(hmem _).2 h, rfl⟩, rfl⟩

end Lists

section Pairs

variable (mem_pairs : ∀ a b, (a, b) ∈ v.pairs ↔ a < b ∧ (m s(a, b)).isSome)

include mem_pairs

theorem mem_map_pairs_iff_of_lt {a b : String} (hab : a < b) :
    s(a, b) ∈ v.pairs.map (fun q => s(q.1, q.2)) ↔ (m s(a, b)).isSome := by
  rw [List.mem_map]
  constructor
  · rintro ⟨⟨c, d⟩, hcd, heq⟩
    rw [← heq]
    exact ((mem_pairs c d).1 hcd).2
  · exact fun h => ⟨(a, b), (mem_pairs a b).2 ⟨hab, h⟩, rfl⟩

/-- The pairs of a view are those that are related, whichever id comes first. -/
theorem mem_map_pairs_iff (distinct : ∀ a, m s(a, a) = none) (p : Sym2 String) :
    p ∈ v.pairs.map (fun q => s(q.1, q.2)) ↔ (m p).isSome := by
  induction p using Sym2.ind with
  | _ a b =>
    rcases lt_trichotomy a b with hab | rfl | hba
    · exact mem_map_pairs_iff_of_lt mem_pairs hab
    · rw [distinct, List.mem_map]
      refine ⟨?_, fun h => by cases h⟩
      rintro ⟨⟨c, d⟩, hcd, heq⟩
      have hlt := ((mem_pairs c d).1 hcd).1
      obtain ⟨hc, hd⟩ := or_self_iff.1 (Sym2.eq_iff.1 heq)
      exact absurd (hc.trans hd.symm) (String.ne_of_lt hlt)
    · rw [Sym2.eq_swap]
      exact mem_map_pairs_iff_of_lt mem_pairs hba

theorem nodup_map_pairs
    (sorted_pairs : v.pairs.Pairwise fun p q => p.1 < q.1 ∨ p.1 = q.1 ∧ p.2 < q.2) :
    (v.pairs.map fun q => s(q.1, q.2)).Nodup := by
  have hpairs : v.pairs.Nodup := sorted_pairs.imp fun {p q} hlt he => by
    subst he
    rcases hlt with hlt | ⟨-, hlt⟩ <;> exact String.lt_irrefl _ hlt
  refine List.Nodup.map_on ?_ hpairs
  rintro ⟨a, b⟩ hab ⟨c, d⟩ hcd heq
  have hlt := ((mem_pairs a b).1 hab).1
  have hlt' := ((mem_pairs c d).1 hcd).1
  rcases Sym2.eq_iff.1 heq with ⟨rfl, rfl⟩ | ⟨rfl, rfl⟩
  · rfl
  · exact absurd hlt' (String.lt_asymm hlt)

end Pairs

/-- A view whose lists are right and whose numbers are the lengths of the lists. -/
theorem ShownBy.of_lists (distinct : ∀ a, m s(a, a) = none)
    (contains : ∀ a b, v.contains a b = (m s(a, b)).isSome)
    (mem_edgesOf : ∀ id e, e ∈ v.edgesOf id ↔ m s(id, e.other) = some e.handle)
    (sorted_edgesOf : ∀ id, (v.edgesOf id).Pairwise fun e e' => e.other < e'.other)
    (degree : ∀ id, v.degree id = (v.edgesOf id).length)
    (mem_pairs : ∀ a b, (a, b) ∈ v.pairs ↔ a < b ∧ (m s(a, b)).isSome)
    (sorted_pairs : v.pairs.Pairwise fun p q => p.1 < q.1 ∨ p.1 = q.1 ∧ p.2 < q.2)
    (size : v.size = v.pairs.length) : m.ShownBy v := by
  have hmem : ∀ p, p ∈ v.pairs.map (fun q => s(q.1, q.2)) ↔ p ∈ {p | (m p).isSome} :=
    mem_map_pairs_iff mem_pairs distinct
  have hn := nodup_map_pairs mem_pairs sorted_pairs
  exact
    { distinct, contains, mem_edgesOf, sorted_edgesOf, mem_pairs, sorted_pairs
      finite := (List.finite_toSet _).subset fun p hp => (hmem p).2 hp
      degree := fun id => by rw [degree, ncard_others (mem_edgesOf id) (sorted_edgesOf id)]
      size := by rw [size, ncard_eq_length hn hmem, List.length_map] }

/-- Relations are shown in one way only. -/
theorem ShownBy.unique {w : GraphView} (hv : m.ShownBy v) (hw : m.ShownBy w) : v = w := by
  have hedges : v.edgesOf = w.edgesOf := funext fun id =>
    (hv.sorted_edgesOf id).eq_of_mem_iff (hw.sorted_edgesOf id) fun e => by
      rw [hv.mem_edgesOf, hw.mem_edgesOf]
  have hasymm : Std.Asymm fun p q : String × String => p.1 < q.1 ∨ p.1 = q.1 ∧ p.2 < q.2 := by
    refine ⟨fun p q hlt hlt' => ?_⟩
    rcases hlt with hlt | ⟨heq, hlt⟩ <;> rcases hlt' with hlt' | ⟨heq', hlt'⟩
    · exact String.lt_asymm hlt hlt'
    · exact String.lt_irrefl _ (heq' ▸ hlt)
    · exact String.lt_irrefl _ (heq ▸ hlt')
    · exact String.lt_asymm hlt hlt'
  have hpairs : v.pairs = w.pairs :=
    hv.sorted_pairs.eq_of_mem_iff hw.sorted_pairs fun p => by rw [hv.mem_pairs, hw.mem_pairs]
  exact GraphView.ext (funext₂ fun a b => by rw [hv.contains, hw.contains]) hedges
    (funext fun id => by rw [hv.degree, hw.degree]) (by rw [hv.size, hw.size]) hpairs

end Relations

/-! ## The link graph -/

namespace IdPair

variable {p q : IdPair} {a b id other : String}

theorem other?_eq_some_iff : p.other? id = some other ↔ s(id, other) = s(p.low, p.high) := by
  have hne := String.ne_of_lt p.low_lt_high
  unfold other?
  rw [Sym2.eq_iff]
  by_cases hlow : p.low = id
  · rw [if_pos hlow, ← hlow, Option.some.injEq]
    constructor
    · exact fun h => Or.inl ⟨rfl, h.symm⟩
    · rintro (⟨-, h⟩ | ⟨h, -⟩)
      · exact h.symm
      · exact absurd h hne
  · rw [if_neg hlow]
    by_cases hhigh : p.high = id
    · rw [if_pos hhigh, Option.some.injEq]
      constructor
      · exact fun h => Or.inr ⟨hhigh.symm, h.symm⟩
      · rintro (⟨h, -⟩ | ⟨-, h⟩)
        · exact absurd h.symm hlow
        · exact h.symm
    · rw [if_neg hhigh]
      refine ⟨fun h => (Option.some_ne_none _ h.symm).elim, ?_⟩
      rintro (⟨h, -⟩ | ⟨h, -⟩)
      · exact absurd h.symm hlow
      · exact absurd h.symm hhigh

theorem other?_eq_none_iff : p.other? id = none ↔ id ∉ s(p.low, p.high) := by
  unfold other?
  rw [Sym2.mem_iff, not_or]
  split
  · simp_all
  · split
    · simp_all
    · simp_all [eq_comm]

theorem compare_eq_lt_iff :
    compare p q = .lt ↔ p.low < q.low ∨ p.low = q.low ∧ p.high < q.high := by
  show (compare p.low q.low).then (compare p.high q.high) = .lt ↔ _
  rw [Ordering.then_eq_lt, compare_lt_iff_lt, compare_lt_iff_lt, compare_eq_iff_eq]

/-- The pairs of an id are in the order of their other ids: first those in which it is the larger
one. -/
theorem other?_lt_other? {other' : String} (h : compare p q = .lt) (hp : p.other? id = some other)
    (hq : q.other? id = some other') : other < other' := by
  have hlt := p.low_lt_high
  have hlt' := q.low_lt_high
  rw [other?_eq_some_iff, Sym2.eq_iff] at hp hq
  rcases hp with ⟨rfl, rfl⟩ | ⟨rfl, rfl⟩ <;> rcases hq with ⟨hid, rfl⟩ | ⟨hid, rfl⟩ <;>
    rcases compare_eq_lt_iff.1 h with hcmp | ⟨heq, hcmp⟩
  · exact absurd (hid ▸ hcmp) (String.lt_irrefl _)
  · exact hcmp
  · exact absurd (hid ▸ hcmp.trans hlt') (String.lt_irrefl _)
  · exact absurd (heq ▸ hid ▸ hlt') (String.lt_irrefl _)
  · exact hlt.trans (hid ▸ hlt')
  · exact hlt.trans (hid ▸ hlt')
  · exact hcmp
  · exact absurd (hid ▸ hcmp) (String.lt_irrefl _)

end IdPair

namespace LinkGraph

variable {g : LinkGraph} {m : Relations} {p : IdPair} {a b id : String}

/-- The handle of a relation, if there is the relation. -/
def relation? (g : LinkGraph) (a b : String) : Option (Option Nat) :=
  (IdPair.of? a b).bind g.edges.get?

/-- A graph keeps some relations: it has them and no others. -/
def Keeps (g : LinkGraph) (m : Relations) : Prop :=
  ∀ a b, g.relation? a b = m s(a, b)

/-- What a graph says to a change, and the graph after it. -/
def change (g : LinkGraph) : GraphChange → GraphAnswer × LinkGraph
  | .relate a b => (.related (g.isNew a b), g.relate a b)
  | .draw a b handle => (.replaced (g.handle? a b), g.setHandle a b handle)
  | .forget id => (.cleared (g.handlesOf id), g.erase id)

def view (g : LinkGraph) : GraphView where
  contains := g.contains
  edgesOf := g.edgesOf
  degree := g.degree
  size := g.size
  pairs := g.pairs.map fun p => (p.low, p.high)

def ofChanges (cs : List GraphChange) : LinkGraph := cs.foldl (fun g c => (g.change c).2) empty

theorem relation?_self (g : LinkGraph) (a : String) : g.relation? a a = none := by
  unfold relation?
  rw [IdPair.of?_eq_none_iff.2 rfl, Option.bind_none]

/-- A relation that is put in stands under both orders of its ids. -/
theorem relation?_insert {c d : String} (hp : IdPair.of? c d = some p) (handle : Option Nat)
    (a b : String) :
    (LinkGraph.mk (g.edges.insert p handle)).relation? a b =
      if s(a, b) = s(c, d) then some handle else g.relation? a b := by
  unfold relation?
  by_cases hab : s(a, b) = s(c, d)
  · rw [if_pos hab, IdPair.of?_congr hab, hp, Option.bind_some, SortedMap.get?_insert, if_pos rfl]
  · rw [if_neg hab]
    cases hq : IdPair.of? a b with
    | none => rfl
    | some q =>
      have hne : q ≠ p := fun he => hab (by
        rw [IdPair.of?_eq_some_iff.1 hq, IdPair.of?_eq_some_iff.1 hp, he])
      rw [Option.bind_some, Option.bind_some, SortedMap.get?_insert, if_neg hne]

theorem relation?_relate (g : LinkGraph) (a b c d : String) :
    (g.relate c d).relation? a b =
      if g.isNew c d = true ∧ s(a, b) = s(c, d) then some none else g.relation? a b := by
  unfold relate isNew
  cases hp : IdPair.of? c d with
  | none => simp
  | some p =>
    simp only [Option.any_some]
    by_cases hold : g.edges.contains p = true
    · simp [hold]
    · simp [hold, relation?_insert hp]

theorem relation?_setHandle (g : LinkGraph) (a b c d : String) (handle : Nat) :
    (g.setHandle c d handle).relation? a b =
      if g.contains c d = true ∧ s(a, b) = s(c, d) then some (some handle)
      else g.relation? a b := by
  unfold setHandle contains
  cases hp : IdPair.of? c d with
  | none => simp
  | some p =>
    simp only [Option.any_some]
    by_cases hold : g.edges.contains p = true
    · simp [hold, relation?_insert hp]
    · simp [hold]

theorem relation?_erase (g : LinkGraph) (id a b : String) :
    (g.erase id).relation? a b = if id ∈ s(a, b) then none else g.relation? a b := by
  unfold relation? erase
  cases hq : IdPair.of? a b with
  | none => simp
  | some q =>
    rw [Option.bind_some, Option.bind_some, SortedMap.get?_filter, IdPair.of?_eq_some_iff.1 hq]
    by_cases hid : id ∈ s(q.low, q.high)
    · have hother : (q.other? id).isNone = false := by
        rw [← Bool.not_eq_true, Option.isNone_iff_eq_none, IdPair.other?_eq_none_iff, not_not]
        exact hid
      rw [if_pos hid, Option.filter_eq_none_iff]
      simp [hother]
    · have hother : (q.other? id).isNone = true := by
        rw [Option.isNone_iff_eq_none, IdPair.other?_eq_none_iff]
        exact hid
      rw [if_neg hid]
      cases g.edges.get? q <;> simp [hother]

/-! ### What a graph answers -/

theorem contains_eq_isSome (g : LinkGraph) (a b : String) :
    g.contains a b = (g.relation? a b).isSome := by
  unfold contains relation?
  cases IdPair.of? a b <;> rfl

theorem isNew_eq_true_iff : g.isNew a b = true ↔ a ≠ b ∧ g.relation? a b = none := by
  unfold isNew relation? SortedMap.contains
  cases hp : IdPair.of? a b with
  | none => simp [IdPair.of?_eq_none_iff.1 hp]
  | some p =>
    have hne : a ≠ b := fun he => by
      rw [IdPair.of?_eq_none_iff.2 he] at hp
      cases hp
    simp [hne]

theorem mem_edgesOf_iff {e : Edge} :
    e ∈ g.edgesOf id ↔ g.relation? id e.other = some e.handle := by
  unfold edgesOf relation?
  simp only [List.mem_filterMap, Option.map_eq_some_iff, Option.bind_eq_some_iff, Prod.exists]
  constructor
  · rintro ⟨p, handle, hp, other, hother, rfl⟩
    exact ⟨p, IdPair.of?_eq_some_iff.2 (IdPair.other?_eq_some_iff.1 hother),
      SortedMap.get?_eq_some_iff.2 hp⟩
  · rintro ⟨p, hp, hget⟩
    exact ⟨p, e.handle, SortedMap.get?_eq_some_iff.1 hget, e.other,
      IdPair.other?_eq_some_iff.2 (IdPair.of?_eq_some_iff.1 hp), rfl⟩

theorem pairwise_edgesOf (g : LinkGraph) (id : String) :
    (g.edgesOf id).Pairwise fun e e' => e.other < e'.other := by
  refine List.pairwise_filterMap.2 (g.edges.ordered.imp fun {x y} hlt e he e' he' => ?_)
  obtain ⟨other, hother, rfl⟩ := Option.map_eq_some_iff.1 he
  obtain ⟨other', hother', rfl⟩ := Option.map_eq_some_iff.1 he'
  exact IdPair.other?_lt_other? hlt hother hother'

/-- A graph shows what it keeps. -/
theorem Keeps.shownBy (h : g.Keeps m) : m.ShownBy g.view := by
  refine .of_lists (fun a => ?_) (fun a b => ?_) (fun id e => ?_) g.pairwise_edgesOf
    (fun id => rfl) (fun a b => ?_) ?_ ?_
  · rw [← h, relation?_self]
  · rw [← h]
    exact g.contains_eq_isSome a b
  · rw [← h]
    exact mem_edgesOf_iff
  · rw [← h, ← contains_eq_isSome]
    simp only [view, List.mem_map, Prod.mk.injEq]
    constructor
    · rintro ⟨p, hp, rfl, rfl⟩
      exact ⟨p.low_lt_high, mem_pairs_iff.1 hp⟩
    · rintro ⟨hlt, hcontains⟩
      exact ⟨⟨a, b, hlt⟩, mem_pairs_iff.2 hcontains, rfl, rfl⟩
  · have hpairs : g.pairs.Pairwise fun p q => compare p q = .lt :=
      List.pairwise_map.2 g.edges.ordered
    exact List.pairwise_map.2 (hpairs.imp fun hlt => IdPair.compare_eq_lt_iff.1 hlt)
  · simp [view, size, pairs, SortedMap.size, SortedMap.keys]

/-! ### Changes -/

theorem Keeps.answers (h : g.Keeps m) (c : GraphChange) : m.Answers c (g.change c).1 := by
  cases c with
  | relate a b =>
    show g.isNew a b = true ↔ _
    rw [isNew_eq_true_iff, h]
  | draw a b handle =>
    show g.handle? a b = _
    rw [← h]
    rfl
  | forget id =>
    exact Relations.answers_forget (v := g.view) (fun e => h.shownBy.mem_edgesOf id e)
      (g.pairwise_edgesOf id) (List.Perm.refl _)

theorem keeps_empty : empty.Keeps .nothing := by
  intro a b
  unfold relation?
  cases IdPair.of? a b <;> rfl

/-- What a graph keeps changes as it should. -/
theorem Keeps.change (h : g.Keeps m) (c : GraphChange) : (g.change c).2.Keeps (m.after c) := by
  intro a b
  cases c with
  | relate c d =>
    show (g.relate c d).relation? a b = _
    simp only [relation?_relate, isNew_eq_true_iff, Relations.after_relate, h _ _]
  | draw c d handle =>
    show (g.setHandle c d handle).relation? a b = _
    simp only [relation?_setHandle, contains_eq_isSome, Relations.after_draw, h _ _]
  | forget id =>
    show (g.erase id).relation? a b = _
    rw [relation?_erase, h]
    rfl

/-- A graph keeps after some changes what is related after them. -/
theorem keeps_ofChanges (cs : List GraphChange) : (ofChanges cs).Keeps (.ofChanges cs) := by
  have hrun : ∀ (g : LinkGraph) (m : Relations), g.Keeps m →
      (cs.foldl (fun g c => (g.change c).2) g).Keeps (cs.foldl Relations.after m) := by
    induction cs with
    | nil => exact fun g m h => h
    | cons c cs ih => exact fun g m h => ih _ _ (h.change c)
  exact hrun empty .nothing keeps_empty

end LinkGraph

end Gazetteer
