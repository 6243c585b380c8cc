import Gazetteer.Proofs.Index.Lookup
import Mathlib.Algebra.Order.Ring.Nat
import Mathlib.Data.List.Nodup

/-!
# The two maps of an index agree

An index keeps every layer twice, by its id and among the layers of its note. `LayerIndex.WF` says
that both maps hold the same layers. Every operation keeps it, also where it stops early: at a
floating layer, an id in use, an unknown id, a layer from another note. So it holds of every index
that a sequence of operations makes (`WF.perform`), and either map answers for the other
(`hasLayersOf_iff`, `size_eq_sum`).
-/

namespace Gazetteer

namespace LayerIndex

variable {i : LayerIndex} {l : Layer} {path id : String}

/-- Both maps of an index hold the same layers: each layer under its own id, and once among the
layers of its own note. No note is kept without layers. -/
structure WF (i : LayerIndex) : Prop where
  id_eq : ∀ {id l}, i.get? id = some l → l.id = id
  sourced : ∀ {id l}, i.get? id = some l → ∃ source, l.source? = some source
  mem_layersOf : ∀ {path l}, l ∈ i.layersOf path ↔ i.get? l.id = some l ∧ l.source? = some ⟨path⟩
  nodup_ids : ∀ path, ((i.layersOf path).map Layer.id).Nodup
  ne_nil : ∀ path, i.bySource.get? path ≠ some []

namespace WF

theorem empty : LayerIndex.empty.WF where
  id_eq h := by simp [get?_empty] at h
  sourced h := by simp [get?_empty] at h
  mem_layersOf := by simp [layersOf_empty, get?_empty]
  nodup_ids path := by simp [layersOf_empty]
  ne_nil path := by simp [LayerIndex.empty]

/-- A layer that is found after one was put under its id is that one or was found before. -/
theorem sourced_of_put (h : i.WF) (hs : ∃ source, l.source? = some source) {c : Prop}
    [Decidable c] {l' : Layer}
    (hl' : (if c ∧ id = l.id then some l else i.get? id) = some l') :
    l'.id = id ∧ ∃ source, l'.source? = some source := by
  split at hl'
  · rename_i hc
    cases hl'
    exact ⟨hc.2.symm, hs⟩
  · exact ⟨h.id_eq hl', h.sourced hl'⟩

/-- No indexed layer has the id of one that is accepted. -/
theorem id_ne_of_accepts (h : i.WF) (ha : i.accepts l = true) {l' : Layer}
    (hl' : l' ∈ i.layersOf path) : l'.id ≠ l.id := by
  intro he
  have hg := (h.mem_layersOf.1 hl').1
  rw [he, (accepts_iff.1 ha).2] at hg
  cases hg

theorem mem_layersOf_add (h : i.WF) (ha : i.accepts l = true) {l' : Layer} :
    l' ∈ (i.add l).layersOf path ↔
      (i.add l).get? l'.id = some l' ∧ l'.source? = some ⟨path⟩ := by
  rw [layersOf_add, get?_add]
  by_cases hid : l'.id = l.id
  · have hold : l' ∉ i.layersOf path := fun hl' => h.id_ne_of_accepts ha hl' hid
    by_cases hp : l.source? = some ⟨path⟩
    · rw [if_pos ⟨ha, hp⟩, if_pos ⟨ha, hid⟩]
      simp only [List.mem_append, hold, List.mem_singleton, false_or, Option.some.injEq]
      exact ⟨fun he => ⟨he.symm, he ▸ hp⟩, fun he => he.1.symm⟩
    · rw [if_neg fun hc => hp hc.2, if_pos ⟨ha, hid⟩]
      refine ⟨fun hl' => absurd hl' hold, ?_⟩
      rintro ⟨he, hp'⟩
      cases he
      exact absurd hp' hp
  · have hl : l' ≠ l := fun he => hid (he ▸ rfl)
    simp only [hid, and_false, if_false]
    rw [← h.mem_layersOf]
    split
    · simp [hl]
    · rfl

theorem add (h : i.WF) (l : Layer) : (i.add l).WF := by
  cases ha : i.accepts l with
  | false => rwa [add_of_not_accepts ha]
  | true =>
    obtain ⟨source, hs⟩ := (accepts_iff.1 ha).1
    refine ⟨?_, ?_, h.mem_layersOf_add ha, ?_, ?_⟩
    · intro id l' hl'
      rw [get?_add] at hl'
      exact (h.sourced_of_put ⟨source, hs⟩ hl').1
    · intro id l' hl'
      rw [get?_add] at hl'
      exact (h.sourced_of_put ⟨source, hs⟩ hl').2
    · intro path
      rw [layersOf_add]
      split
      · rw [List.map_append, List.nodup_append]
        refine ⟨h.nodup_ids path, by simp, ?_⟩
        intro id hid id' hid' he
        obtain ⟨l', hl', rfl⟩ := List.mem_map.1 hid
        simp only [List.map_cons, List.map_nil, List.mem_singleton] at hid'
        exact h.id_ne_of_accepts ha hl' (he.trans hid')
      · exact h.nodup_ids path
    · intro path
      rw [add_of_accepts ha hs, SortedMap.get?_insert]
      split
      · simp
      · exact h.ne_nil path

theorem addAll (h : i.WF) (ls : List Layer) : (i.addAll ls).WF := by
  unfold LayerIndex.addAll
  induction ls generalizing i with
  | nil => exact h
  | cons l ls ih => exact ih (h.add l)

/-- The ids of the layers of a note are those under which layers of that note are found. -/
theorem mem_ids_layersOf (h : i.WF) :
    id ∈ (i.layersOf path).map Layer.id ↔ ∃ l, i.get? id = some l ∧ l.source? = some ⟨path⟩ := by
  rw [List.mem_map]
  constructor
  · rintro ⟨l, hl, rfl⟩
    exact ⟨l, h.mem_layersOf.1 hl⟩
  · rintro ⟨l, hl, hs⟩
    have hid := h.id_eq hl
    exact ⟨l, h.mem_layersOf.2 ⟨by rw [hid]; exact hl, hs⟩, hid⟩

theorem layersOf_delete_eq_filter (h : i.WF) (id path : String) :
    (i.delete id).layersOf path = (i.layersOf path).filter (·.id != id) := by
  rw [layersOf_delete]
  split
  · rfl
  · rename_i hno
    refine (List.filter_eq_self.2 fun l hl => ?_).symm
    rw [bne_iff_ne]
    intro he
    obtain ⟨hg, hs⟩ := h.mem_layersOf.1 hl
    rw [he] at hg
    exact hno (by simp [hg, hs])

theorem delete (h : i.WF) (id : String) : (i.delete id).WF := by
  refine ⟨?_, ?_, ?_, ?_, ?_⟩
  · intro id' l hl
    rw [get?_delete] at hl
    split at hl
    · cases hl
    · exact h.id_eq hl
  · intro id' l hl
    rw [get?_delete] at hl
    split at hl
    · cases hl
    · exact h.sourced hl
  · intro path l
    rw [h.layersOf_delete_eq_filter, get?_delete, List.mem_filter, h.mem_layersOf, bne_iff_ne]
    by_cases hid : l.id = id <;> simp [hid]
  · intro path
    rw [h.layersOf_delete_eq_filter]
    exact (h.nodup_ids path).sublist (List.filter_sublist.map _)
  · intro path
    unfold LayerIndex.delete
    split
    · exact h.ne_nil path
    · split
      · exact h.ne_nil path
      · exact get?_removeFrom_ne_nil h.ne_nil _ id path

/-- Removing the layers of a note removes the indexed layers that come from it. -/
theorem get?_deleteSource_eq_filter (h : i.WF) (path id : String) :
    (i.deleteSource path).get? id = (i.get? id).filter (·.source? != some ⟨path⟩) := by
  rw [get?_deleteSource]
  cases hg : i.get? id with
  | none => simp
  | some l =>
    by_cases hs : l.source? = some ⟨path⟩
    · rw [if_pos (h.mem_ids_layersOf.2 ⟨l, hg, hs⟩), Option.filter_some, hs]
      simp
    · have hout : id ∉ (i.layersOf path).map Layer.id := fun hm => by
        obtain ⟨l', hg', hs'⟩ := h.mem_ids_layersOf.1 hm
        rw [hg] at hg'
        cases hg'
        exact hs hs'
      rw [if_neg hout, Option.filter_some, if_pos (bne_iff_ne.2 hs)]

theorem deleteSource (h : i.WF) (path : String) : (i.deleteSource path).WF := by
  refine ⟨?_, ?_, ?_, ?_, ?_⟩
  · intro id l hl
    rw [h.get?_deleteSource_eq_filter, Option.filter_eq_some_iff] at hl
    exact h.id_eq hl.1
  · intro id l hl
    rw [h.get?_deleteSource_eq_filter, Option.filter_eq_some_iff] at hl
    exact h.sourced hl.1
  · intro path' l
    rw [layersOf_deleteSource, h.get?_deleteSource_eq_filter, Option.filter_eq_some_iff,
      bne_iff_ne]
    by_cases hp : path' = path
    · subst hp
      simp
    · rw [if_neg hp, h.mem_layersOf]
      refine ⟨fun ⟨hg, hs⟩ => ⟨⟨hg, ?_⟩, hs⟩, fun ⟨⟨hg, _⟩, hs⟩ => ⟨hg, hs⟩⟩
      simpa [hs] using hp
  · intro path'
    rw [layersOf_deleteSource]
    split
    · exact List.nodup_nil
    · exact h.nodup_ids path'
  · intro path'
    unfold LayerIndex.deleteSource
    simp only [SortedMap.get?_erase]
    split
    · simp
    · exact h.ne_nil path'

theorem mem_layersOf_replace (h : i.WF) {old l' : Layer} (hr : i.replaced? l = some old) :
    l' ∈ (i.replace l).layersOf path ↔
      (i.replace l).get? l'.id = some l' ∧ l'.source? = some ⟨path⟩ := by
  obtain ⟨hg, hsame⟩ := replaced?_eq_some_iff.1 hr
  simp only [layersOf_replace, get?_replace, hr, Option.isSome_some, true_and]
  by_cases hp : l.source? = some ⟨path⟩
  · have hin : l.id ∈ (i.layersOf path).map Layer.id :=
      h.mem_ids_layersOf.2 ⟨old, hg, hsame.trans hp⟩
    rw [if_pos hp, mem_inPlace (h.nodup_ids path), h.mem_layersOf]
    by_cases hid : l'.id = l.id
    · simp only [hid, hin, and_true, ne_eq, not_true, and_false, or_false, if_true,
        Option.some.injEq]
      exact ⟨fun he => ⟨he.symm, he ▸ hp⟩, fun he => he.1.symm⟩
    · have hne : l' ≠ l := fun he => hid (he ▸ rfl)
      simp [hid, hne]
  · rw [if_neg hp, h.mem_layersOf]
    by_cases hid : l'.id = l.id
    · rw [if_pos hid, hid, hg]
      refine ⟨fun ⟨he, hs'⟩ => ?_, fun ⟨he, hs'⟩ => ?_⟩
      · cases he
        exact absurd (hsame.symm.trans hs') hp
      · cases he
        exact absurd hs' hp
    · rw [if_neg hid]

theorem replace (h : i.WF) (l : Layer) : (i.replace l).WF := by
  cases hr : i.replaced? l with
  | none =>
    unfold LayerIndex.replace
    rwa [hr]
  | some old =>
    obtain ⟨hg, hsame⟩ := replaced?_eq_some_iff.1 hr
    obtain ⟨source, hs⟩ := h.sourced hg
    rw [hsame] at hs
    refine ⟨?_, ?_, h.mem_layersOf_replace hr, ?_, ?_⟩
    · intro id l' hl'
      rw [get?_replace] at hl'
      exact (h.sourced_of_put ⟨source, hs⟩ hl').1
    · intro id l' hl'
      rw [get?_replace] at hl'
      exact (h.sourced_of_put ⟨source, hs⟩ hl').2
    · intro path
      rw [map_id_layersOf_replace]
      exact h.nodup_ids path
    · intro path
      unfold LayerIndex.replace
      rw [hr]
      simp only [hsame, hs]
      exact get?_putInto_ne_nil h.ne_nil source.path path l

theorem clear (i : LayerIndex) : i.clear.WF := empty

theorem applySource (h : i.WF) (path : String) (r : Reconciliation) : (i.applySource path r).WF :=
  (h.deleteSource path).addAll r.present

theorem toIndex (r : Reconciliation) : r.toIndex.WF :=
  empty.addAll r.present

/-! ## What follows from the agreement -/

theorem mem_layers (h : i.WF) : l ∈ i.layers ↔ i.get? l.id = some l := by
  unfold layers
  rw [SortedMap.mem_values_iff]
  refine ⟨?_, fun hg => ⟨l.id, hg⟩⟩
  rintro ⟨id, hg⟩
  rwa [h.id_eq hg]

theorem map_id_layers (h : i.WF) : i.layers.map Layer.id = i.ids := by
  unfold layers ids SortedMap.values SortedMap.keys
  rw [List.map_map]
  exact List.map_congr_left fun e he => h.id_eq (SortedMap.get?_eq_some_iff.2 he)

theorem nodup_ids_layers (h : i.WF) : (i.layers.map Layer.id).Nodup := by
  rw [h.map_id_layers]
  exact i.byId.nodup_keys

theorem mem_others (h : i.WF) {source : SourceRef} :
    l ∈ i.others source ↔ i.get? l.id = some l ∧ l.source? ≠ some source := by
  unfold others
  rw [List.mem_filter, h.mem_layers, bne_iff_ne]

/-- An id that no other source has is free for a source. -/
theorem forall_others_ne_iff (h : i.WF) {source : SourceRef} {id : String} :
    (∀ old ∈ i.others source, old.id ≠ id) ↔
      ∀ old, i.get? id = some old → old.source? = some source := by
  constructor
  · intro hno old hg
    have hid := h.id_eq hg
    by_contra hs
    exact hno old (h.mem_others.2 ⟨by rwa [hid], hs⟩) hid
  · rintro hall old hold rfl
    obtain ⟨hg, hs⟩ := h.mem_others.1 hold
    exact hs (hall old hg)

theorem nodup_ids_others (h : i.WF) (source : SourceRef) :
    ((i.others source).map Layer.id).Nodup :=
  h.nodup_ids_layers.sublist (List.filter_sublist.map _)

theorem hasLayersOf_iff (h : i.WF) :
    i.hasLayersOf path = true ↔ ∃ id l, i.get? id = some l ∧ l.source? = some ⟨path⟩ := by
  unfold hasLayersOf
  rw [SortedMap.contains_iff]
  constructor
  · rintro ⟨ls, hls⟩
    obtain ⟨l, hl⟩ := List.exists_mem_of_ne_nil ls fun hnil => h.ne_nil path (hnil ▸ hls)
    have hmem : l ∈ i.layersOf path := by rw [layersOf, hls]; exact hl
    exact ⟨l.id, l, h.mem_layersOf.1 hmem⟩
  · rintro ⟨id, l, hg, hs⟩
    have hmem : l ∈ i.layersOf path := h.mem_layersOf.2 ⟨by rw [h.id_eq hg]; exact hg, hs⟩
    unfold layersOf at hmem
    cases hls : i.bySource.get? path with
    | none => simp [hls] at hmem
    | some ls => exact ⟨ls, rfl⟩

/-- A layer stands at one position, among the layers of its own note. -/
theorem getElem?_layersOf_iff (h : i.WF) (hg : i.get? id = some l) :
    ∃ (source : SourceRef) (n : Nat), l.source? = some source ∧
      ∀ path m, (i.layersOf path)[m]? = some l ↔ path = source.path ∧ m = n := by
  obtain ⟨source, hs⟩ := h.sourced hg
  have hmem : l ∈ i.layersOf source.path := h.mem_layersOf.2 ⟨by rw [h.id_eq hg]; exact hg, hs⟩
  obtain ⟨n, hn⟩ := List.mem_iff_getElem?.1 hmem
  refine ⟨source, n, hs, fun path m => ⟨fun hm => ?_, ?_⟩⟩
  · have hp := (h.mem_layersOf.1 (List.mem_of_getElem? hm)).2
    rw [hs, Option.some.injEq] at hp
    subst hp
    refine ⟨rfl, ?_⟩
    have hnodup : (i.layersOf path).Nodup := List.Nodup.of_map _ (h.nodup_ids path)
    exact (List.getElem?_inj (List.getElem?_eq_some_iff.1 hm).1 hnodup).1 (hm.trans hn.symm)
  · rintro ⟨rfl, rfl⟩
    exact hn

/-- Every layer is counted once by ids and once by notes. -/
theorem size_eq_sum (h : i.WF) : i.size = (i.bySource.values.map List.length).sum := by
  have hlist : ∀ e ∈ i.bySource.entries, i.layersOf e.1 = e.2 := fun e he => by
    rw [layersOf, SortedMap.get?_eq_some_iff.2 he, Option.getD_some]
  have hids : i.byId.values.Nodup := List.Nodup.of_map Layer.id h.nodup_ids_layers
  have hnotes : i.bySource.values.flatten.Nodup := by
    rw [List.nodup_flatten]
    constructor
    · intro ls hls
      obtain ⟨e, he, rfl⟩ := List.mem_map.1 hls
      have := h.nodup_ids e.1
      rw [hlist e he] at this
      exact List.Nodup.of_map _ this
    · refine List.pairwise_map.2 ((List.pairwise_map.1 i.bySource.nodup_keys).imp_of_mem ?_)
      intro a b ha hb hab l hla hlb
      rw [← hlist a ha] at hla
      rw [← hlist b hb] at hlb
      have := (h.mem_layersOf.1 hla).2.symm.trans (h.mem_layersOf.1 hlb).2
      exact hab (SourceRef.mk.inj (Option.some.inj this))
  have hperm : i.byId.values.Perm i.bySource.values.flatten := by
    refine (List.perm_ext_iff_of_nodup hids hnotes).2 fun l => ?_
    rw [SortedMap.mem_values_iff, List.mem_flatten]
    constructor
    · rintro ⟨id, hg⟩
      obtain ⟨source, hs⟩ := h.sourced hg
      have hmem : l ∈ i.layersOf source.path :=
        h.mem_layersOf.2 ⟨by rw [h.id_eq hg]; exact hg, hs⟩
      unfold layersOf at hmem
      cases hls : i.bySource.get? source.path with
      | none => simp [hls] at hmem
      | some ls => exact ⟨ls, SortedMap.mem_values_iff.2 ⟨_, hls⟩, by simpa [hls] using hmem⟩
    · rintro ⟨ls, hls, hl⟩
      obtain ⟨e, he, rfl⟩ := List.mem_map.1 hls
      rw [← hlist e he] at hl
      exact ⟨l.id, (h.mem_layersOf.1 hl).1⟩
  rw [← List.length_flatten, ← hperm.length_eq]
  exact List.length_map _ |>.symm

end WF

/-! ## Sequences of operations -/

/-- Something that can be done to an index. -/
inductive Operation where
  | add (l : Layer)
  | delete (id : String)
  | replace (l : Layer)
  | deleteSource (path : String)
  | clear
  /-- Go on with a copy. -/
  | copy
  | applySource (path : String) (r : Reconciliation)
  /-- Go on with the index that a reconciliation makes. -/
  | rebuild (r : Reconciliation)

/-- The index after an operation. -/
def perform (i : LayerIndex) : Operation → LayerIndex
  | .add l => i.add l
  | .delete id => i.delete id
  | .replace l => i.replace l
  | .deleteSource path => i.deleteSource path
  | .clear => i.clear
  | .copy => i
  | .applySource path r => i.applySource path r
  | .rebuild r => r.toIndex

theorem WF.perform (h : i.WF) (o : Operation) : (i.perform o).WF := by
  cases o with
  | add l => exact h.add l
  | delete id => exact h.delete id
  | replace l => exact h.replace l
  | deleteSource path => exact h.deleteSource path
  | clear => exact WF.clear i
  | copy => exact h
  | applySource path r => exact h.applySource path r
  | rebuild r => exact WF.toIndex r

theorem WF.foldl_perform (h : i.WF) (os : List Operation) : (os.foldl LayerIndex.perform i).WF := by
  induction os generalizing i with
  | nil => exact h
  | cons o os ih => exact ih (h.perform o)

/-- **The two maps of an index agree after any sequence of operations.** Every layer is found under
its own id, it stands at one position among the layers of all notes, under its own note, and what
stands there is found by id. No note is kept without layers. So a note is kept if and only if a
layer comes from it, and there are as many layers by ids as by notes. -/
theorem agree_after_operations (os : List Operation) :
    let i := os.foldl perform empty
    (∀ id l, i.byId.get? id = some l → l.id = id) ∧
      (∀ id l, i.byId.get? id = some l →
        ∃ (source : SourceRef) (n : Nat), l.source? = some source ∧
          ∀ path m, (i.layersOf path)[m]? = some l ↔ path = source.path ∧ m = n) ∧
      (∀ path ls, i.bySource.get? path = some ls →
        ls ≠ [] ∧ ∀ l ∈ ls, i.byId.get? l.id = some l) ∧
      (∀ path, i.hasLayersOf path = true ↔
        ∃ id l, i.byId.get? id = some l ∧ l.source? = some ⟨path⟩) ∧
      i.size = (i.bySource.values.map List.length).sum := by
  intro i
  have h : i.WF := WF.empty.foldl_perform os
  refine ⟨fun id l hg => h.id_eq hg, fun id l hg => h.getElem?_layersOf_iff hg, ?_,
    fun path => h.hasLayersOf_iff, h.size_eq_sum⟩
  intro path ls hls
  refine ⟨fun hnil => h.ne_nil path (hnil ▸ hls), fun l hl => ?_⟩
  have hmem : l ∈ i.layersOf path := by rw [layersOf, hls]; exact hl
  exact (h.mem_layersOf.1 hmem).1

end LayerIndex

end Gazetteer
