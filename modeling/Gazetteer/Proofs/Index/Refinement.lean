import Gazetteer.Proofs.Data.SortedMap
import Gazetteer.Proofs.Index.Reconciliation

/-!
# Reconciling one note and reconciling everything

A note can be reconciled alone, in place: its layers are taken out and what stays of its candidates
comes in. Or it can be reconciled together with all layers of other notes, and a new index is made
of what stays. As long as no candidate has the id of a layer of another note, both ways end with the
same layers, and the layers of the note are in the same order.

The layers of other notes are candidates for themselves: each of them counts
(`distinctLayers_append`), and it is what stays of it (`settle_of_get?`). Which list of the
comparison it goes to does not matter, so a layer that differs from itself is no exception.
-/

namespace Gazetteer

variable {i : LayerIndex} {l : Layer} {ls ms others candidates : List Layer}
  {seen seen' : List String} {path : String}

/-! ## Candidates behind others -/

/-- Which candidates count depends on which of their ids are seen, and on nothing else. -/
theorem distinctLayers_congr (h : ∀ l ∈ ls, l.id ∈ seen ↔ l.id ∈ seen') :
    distinctLayers seen ls = distinctLayers seen' ls := by
  induction ls generalizing seen seen' with
  | nil => rfl
  | cons l ls ih =>
    obtain ⟨hl, hls⟩ := List.forall_mem_cons.1 h
    have hseen : seen.contains l.id = seen'.contains l.id := by
      rw [Bool.eq_iff_iff, List.contains_iff_mem, List.contains_iff_mem, hl]
    have hnext : ∀ l' ∈ ls, l'.id ∈ l.id :: seen ↔ l'.id ∈ l.id :: seen' := fun l' hl' => by
      rw [List.mem_cons, List.mem_cons, hls l' hl']
    unfold distinctLayers
    rw [hseen, ih hls, ih hnext]

/-- Behind layers with distinct ids, candidates with other ids count as they would alone. -/
theorem distinctLayers_append (hf : ∀ l ∈ ls, l.isFloating = false) (hn : (ls.map Layer.id).Nodup)
    (hs : ∀ l ∈ ls, l.id ∉ seen) (hout : ∀ m ∈ ms, m.id ∉ ls.map Layer.id) :
    distinctLayers seen (ls ++ ms) = ls ++ distinctLayers seen ms := by
  induction ls generalizing seen with
  | nil => rfl
  | cons l ls ih =>
    obtain ⟨hl, hls⟩ := List.forall_mem_cons.1 hf
    obtain ⟨hsl, hsls⟩ := List.forall_mem_cons.1 hs
    rw [List.map_cons, List.nodup_cons] at hn
    have hs' : ∀ l' ∈ ls, l'.id ∉ l.id :: seen := fun l' hl' hm => by
      rcases List.mem_cons.1 hm with he | hm
      · exact hn.1 (he ▸ List.mem_map_of_mem hl')
      · exact hsls l' hl' hm
    have hout' : ∀ m ∈ ms, m.id ≠ l.id ∧ m.id ∉ ls.map Layer.id := fun m hm => by
      have := hout m hm
      rwa [List.map_cons, List.mem_cons, not_or] at this
    rw [List.cons_append, distinctLayers, if_neg (by simp [hl, hsl]),
      ih hls hn.2 hs' fun m hm => (hout' m hm).2, List.cons_append]
    congr 2
    refine distinctLayers_congr fun m hm => ?_
    rw [List.mem_cons, or_iff_right (hout' m hm).1]

namespace LayerIndex

/-! ## The layers of a note, in order -/

/-- Layers with new ids come in behind those of their note, in their order. -/
theorem layersOf_addAll (hn : (ls.map Layer.id).Nodup)
    (hnew : ∀ l ∈ ls, l.source? = some ⟨path⟩ → i.get? l.id = none) :
    (i.addAll ls).layersOf path =
      i.layersOf path ++ ls.filter fun l => l.source? == some ⟨path⟩ := by
  unfold addAll
  induction ls generalizing i with
  | nil => simp
  | cons l ls ih =>
    obtain ⟨hl, hls⟩ := List.forall_mem_cons.1 hnew
    rw [List.map_cons, List.nodup_cons] at hn
    have hnew' : ∀ l' ∈ ls, l'.source? = some ⟨path⟩ → (i.add l).get? l'.id = none :=
      fun l' hl' hs => by
        have hne : l'.id ≠ l.id := fun he => hn.1 (he ▸ List.mem_map_of_mem hl')
        rw [get?_add, if_neg fun hc => hne hc.2, hls l' hl' hs]
    rw [List.foldl_cons, ih hn.2 hnew', layersOf_add]
    by_cases hs : l.source? = some ⟨path⟩
    · have ha : i.accepts l = true := accepts_iff.2 ⟨⟨_, hs⟩, hl hs⟩
      rw [if_pos ⟨ha, hs⟩, List.filter_cons_of_pos (by simp [hs]), List.append_assoc,
        List.singleton_append]
    · rw [if_neg fun hc => hs hc.2, List.filter_cons_of_neg (by simp [hs])]

/-! ## Layers of other notes as candidates -/

/-- What stays of an indexed layer is the layer. -/
theorem settle_of_get? (h : i.get? l.id = some l) : i.settle l = l := by
  rcases i.settle_cases l with he | ⟨hg, -⟩
  · exact he
  · rw [h, Option.some.injEq] at hg
    exact hg.symm

theorem kept?_eq_some_self (h : i.get? l.id = some l) {old : Layer} (hk : i.kept? l = some old) :
    old = l := by
  have hold := (kept?_eq_some_iff.1 hk).1
  rw [h, Option.some.injEq] at hold
  exact hold.symm

section Alone

/-! Candidates of one note none of which has the id of a layer of another note, and the layers of
the other notes in some order. -/

variable (h : i.WF) (ho : others.Perm (i.others ⟨path⟩))
  (hfree : ∀ c ∈ candidates, ∀ l, i.get? c.id = some l → l.source? = some ⟨path⟩)

include h ho

theorem WF.mem_of_perm_others :
    l ∈ others ↔ i.get? l.id = some l ∧ l.source? ≠ some ⟨path⟩ := by
  rw [ho.mem_iff, h.mem_others]

include hfree

/-- All layers of the other notes count, and the candidates count as they would alone. -/
theorem WF.distinctLayers_others_append :
    distinctLayers [] (others ++ candidates) = others ++ distinctLayers [] candidates := by
  refine distinctLayers_append (fun l hl => ?_) ?_ (fun l _ => List.not_mem_nil) fun c hc hm => ?_
  · exact Layer.isFloating_eq_false_iff.2 (h.sourced ((h.mem_of_perm_others ho).1 hl).1)
  · exact (ho.map Layer.id).nodup_iff.2 (h.nodup_ids_others ⟨path⟩)
  · obtain ⟨l, hl, hid⟩ := List.mem_map.1 hm
    obtain ⟨hg, hs⟩ := (h.mem_of_perm_others ho).1 hl
    exact hs (hfree c hc l (hid ▸ hg))

theorem WF.get?_toIndex_reconcile_others (id : String) :
    (i.reconcile (others ++ candidates)).toIndex.get? id = some l ↔
      (i.get? id = some l ∧ l.source? ≠ some ⟨path⟩) ∨
        ∃ c ∈ distinctLayers [] candidates, c.id = id ∧ i.settle c = l := by
  rw [h.get?_toIndex_reconcile, h.distinctLayers_others_append ho hfree]
  simp only [List.mem_append, or_and_right, exists_or]
  refine or_congr_left ⟨?_, ?_⟩
  · rintro ⟨o, hin, rfl, rfl⟩
    have hmem := (h.mem_of_perm_others ho).1 hin
    rwa [settle_of_get? hmem.1]
  · rintro ⟨hg, hs⟩
    have hid := h.id_eq hg
    rw [← hid] at hg
    exact ⟨l, (h.mem_of_perm_others ho).2 ⟨hg, hs⟩, hid, settle_of_get? hg⟩

/-- Of what stays, the layers of the note are what stays of its own candidates, in the same
order. -/
theorem WF.filter_present_others :
    (i.reconcile (others ++ candidates)).present.filter (fun l => l.source? == some ⟨path⟩) =
      (i.reconcileSource path candidates).present.filter fun l => l.source? == some ⟨path⟩ := by
  have hout : ∀ o ∈ others, ¬(o.source? == some ⟨path⟩) = true := fun o hin => by
    simpa using ((h.mem_of_perm_others ho).1 hin).2
  have hkept : (others.filterMap i.kept?).filter (fun l => l.source? == some ⟨path⟩) = [] := by
    refine List.filter_eq_nil_iff.2 fun l hl => ?_
    obtain ⟨o, hin, hk⟩ := List.mem_filterMap.1 hl
    rw [kept?_eq_some_self ((h.mem_of_perm_others ho).1 hin).1 hk]
    exact hout o hin
  have hrest : ∀ p : Layer → Bool,
      (others.filter p).filter (fun l => l.source? == some ⟨path⟩) = [] := fun p =>
    List.filter_eq_nil_iff.2 fun o hin => hout o (List.mem_of_mem_filter hin)
  simp only [Reconciliation.present, reconcile, reconcileSource, reconcileWith,
    h.distinctLayers_others_append ho hfree, List.filterMap_append, List.filter_append, hkept,
    hrest, List.nil_append]

end Alone

/-- **Reconciling a note alone refines reconciling everything.** For every index, every note, every
list of candidates none of which has the id of a layer of another note, and the layers of all other
notes in any order: putting the outcome for the note in the place of its layers gives the same
layers by ids as reconciling the layers of the other notes and the candidates together and making a
new index of what stays; and the layers of the note are in the same order in both. -/
theorem WF.applySource_refines_reconcile (h : i.WF) (ho : others.Perm (i.others ⟨path⟩))
    (hfree : ∀ c ∈ candidates, ∀ l, i.get? c.id = some l → l.source? = some ⟨path⟩) :
    let alone := i.applySource path (i.reconcileSource path candidates)
    let together := (i.reconcile (others ++ candidates)).toIndex
    alone.byId = together.byId ∧ alone.layersOf path = together.layersOf path := by
  intro alone together
  constructor
  · refine SortedMap.ext_get? fun id => Option.ext fun l => ?_
    refine (h.get?_applySource_reconcileSource path candidates).trans
      (Iff.trans ?_ (h.get?_toIndex_reconcile_others ho hfree id).symm)
    refine or_congr_right (and_iff_right_of_imp ?_)
    rintro ⟨c, hc, rfl, -⟩
    exact hfree c (mem_of_mem_distinctLayers hc)
  · have hnew : ∀ l ∈ (i.reconcileSource path candidates).present, l.source? = some ⟨path⟩ →
        (i.deleteSource path).get? l.id = none := fun l hl _ => by
      obtain ⟨c, hc, rfl⟩ := mem_present_iff.1 hl
      rw [h.id_settle c, h.get?_deleteSource_eq_filter, Option.filter_eq_none_iff]
      intro l hl
      simpa using hfree c (mem_of_mem_distinctLayers hc) l hl
    calc alone.layersOf path
        = (i.reconcileSource path candidates).present.filter
            fun l => l.source? == some ⟨path⟩ := by
          refine (layersOf_addAll (h.nodup_ids_present _ _) hnew).trans ?_
          rw [layersOf_deleteSource, if_pos rfl, List.nil_append]
          rfl
      _ = (i.reconcile (others ++ candidates)).present.filter
            fun l => l.source? == some ⟨path⟩ := (h.filter_present_others ho hfree).symm
      _ = together.layersOf path :=
          (layersOf_addAll (h.nodup_ids_present _ _) fun l _ _ => get?_empty l.id).symm

/-- One layer of a note changes, one stays, one goes, and one comes in that is there twice. -/
theorem WF.applySource_refines_reconcile_mixed :
    let place (path id name : String) : Layer :=
      .marker ⟨{ source := ⟨path⟩, id, displayName := some name }, ⟨1.0, 2.0⟩, .empty, 0⟩
    let i := LayerIndex.empty.addAll
      [place "A.md" "1" "old", place "B.md" "5" "beside", place "A.md" "2" "same",
        place "C.md" "6" "beside", place "A.md" "3" "gone"]
    let others := (i.others ⟨"A.md"⟩).reverse
    let candidates := [place "A.md" "1" "new", place "A.md" "4" "first", place "A.md" "2" "same",
      place "A.md" "4" "second"]
    let alone := i.applySource "A.md" (i.reconcileSource "A.md" candidates)
    let together := (i.reconcile (others ++ candidates)).toIndex
    i.WF ∧ others.Perm (i.others ⟨"A.md"⟩) ∧
      (∀ c ∈ candidates, ∀ l, i.get? c.id = some l → l.source? = some ⟨"A.md"⟩) ∧
      alone.byId = together.byId ∧ alone.layersOf "A.md" = together.layersOf "A.md" ∧
      others.map Layer.id = ["6", "5"] ∧
      (together.layersOf "A.md").map Layer.displayName? = [some "same", some "first", some "new"] := by
  intro place i others candidates alone together
  have hi : i.WF := WF.empty.addAll _
  have ho : others.Perm (i.others ⟨"A.md"⟩) := List.reverse_perm _
  have hfree : ∀ c ∈ candidates, ∀ l, i.get? c.id = some l → l.source? = some ⟨"A.md"⟩ := by
    have hall : (candidates.all fun c =>
        (i.get? c.id).all fun l => l.source? == some ⟨"A.md"⟩) = true := by decide +kernel
    intro c hc l hl
    have := List.all_eq_true.1 hall c hc
    rw [hl, Option.all_some, beq_iff_eq] at this
    exact this
  obtain ⟨hid, hlayers⟩ := hi.applySource_refines_reconcile ho hfree
  exact ⟨hi, ho, hfree, hid, hlayers, by decide +kernel, by decide +kernel⟩

end LayerIndex

end Gazetteer
