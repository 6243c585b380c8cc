import Gazetteer.Proofs.Index.Agreement

/-!
# What a reconciliation leaves

A reconciliation sorts the candidates into kept, added and updated ones. What it leaves is simpler
to say: one layer for every candidate that counts (`perm_present`), the indexed one if the candidate
says nothing new about it and the candidate itself otherwise (`settle`). The equations for the
indexes it makes follow from the look-ups after `addAll`.
-/

namespace Gazetteer

variable {i : LayerIndex} {l : Layer} {ls : List Layer} {seen : List String} {path id : String}

/-! ## The candidates that count -/

theorem Layer.isFloating_eq_false_iff :
    l.isFloating = false ↔ ∃ source, l.source? = some source := by
  cases l <;> simp [Layer.isFloating, Layer.source?, Layer.info?, Layer.kind,
    LayerKindSet.floating, LayerKindSet.ofList, LayerKindSet.contains, LayerKind.all]

theorem distinctLayers_sublist (seen : List String) (ls : List Layer) :
    (distinctLayers seen ls).Sublist ls := by
  induction ls generalizing seen with
  | nil => exact .slnil
  | cons l ls ih =>
    unfold distinctLayers
    split
    · exact (ih seen).cons l
    · exact (ih (l.id :: seen)).cons_cons l

theorem mem_of_mem_distinctLayers (h : l ∈ distinctLayers seen ls) : l ∈ ls :=
  (distinctLayers_sublist seen ls).subset h

theorem of_mem_distinctLayers (h : l ∈ distinctLayers seen ls) :
    l.isFloating = false ∧ l.id ∉ seen := by
  induction ls generalizing seen with
  | nil => cases h
  | cons l' ls ih =>
    unfold distinctLayers at h
    split at h
    · exact ih h
    · rename_i hl'
      rw [Bool.or_eq_true, not_or, List.contains_iff_mem] at hl'
      rcases List.mem_cons.1 h with rfl | h
      · exact ⟨by simpa using hl'.1, hl'.2⟩
      · obtain ⟨hf, hs⟩ := ih h
        exact ⟨hf, fun hm => hs (List.mem_cons_of_mem _ hm)⟩

theorem sourced_of_mem_distinctLayers (h : l ∈ distinctLayers seen ls) :
    ∃ source, l.source? = some source :=
  Layer.isFloating_eq_false_iff.1 (of_mem_distinctLayers h).1

theorem nodup_ids_distinctLayers (seen : List String) (ls : List Layer) :
    ((distinctLayers seen ls).map Layer.id).Nodup := by
  induction ls generalizing seen with
  | nil => exact List.nodup_nil
  | cons l ls ih =>
    unfold distinctLayers
    split
    · exact ih seen
    · rw [List.map_cons, List.nodup_cons]
      refine ⟨fun hm => ?_, ih _⟩
      obtain ⟨l', hl', he⟩ := List.mem_map.1 hm
      exact (of_mem_distinctLayers hl').2 (by rw [he]; exact List.mem_cons_self)

/-- For every layer with an id that is not seen, one with its id counts. -/
theorem exists_mem_distinctLayers (h : l ∈ ls) (hf : l.isFloating = false) (hs : l.id ∉ seen) :
    ∃ l' ∈ distinctLayers seen ls, l'.id = l.id := by
  induction ls generalizing seen with
  | nil => cases h
  | cons l₁ ls ih =>
    unfold distinctLayers
    rcases List.mem_cons.1 h with rfl | h
    · rw [if_neg (by simp [hf, hs])]
      exact ⟨l, List.mem_cons_self, rfl⟩
    · split
      · exact ih h hs
      · by_cases he : l.id = l₁.id
        · exact ⟨l₁, List.mem_cons_self, he.symm⟩
        · have hs' : l.id ∉ l₁.id :: seen := by simp [he, hs]
          obtain ⟨l', hl', he'⟩ := ih h hs'
          exact ⟨l', List.mem_cons_of_mem _ hl', he'⟩

/-- Of layers with distinct ids all that are not floating count. -/
theorem distinctLayers_eq_self (hf : ∀ l ∈ ls, l.isFloating = false)
    (hn : (ls.map Layer.id).Nodup) (hs : ∀ l ∈ ls, l.id ∉ seen) : distinctLayers seen ls = ls := by
  induction ls generalizing seen with
  | nil => rfl
  | cons l ls ih =>
    rw [List.map_cons, List.nodup_cons] at hn
    have hl := List.mem_cons_self (a := l) (l := ls)
    unfold distinctLayers
    rw [if_neg (by simp [hf l hl, hs l hl])]
    congr 1
    refine ih (fun l' hl' => hf l' (List.mem_cons_of_mem _ hl')) hn.2 fun l' hl' hm => ?_
    rcases List.mem_cons.1 hm with he | hm
    · exact hn.1 (he ▸ List.mem_map_of_mem hl')
    · exact hs l' (List.mem_cons_of_mem _ hl') hm

/-- If all candidates count, no two of them have one id. -/
theorem distinctLayers_eq_self_iff (hf : ∀ l ∈ ls, l.isFloating = false) :
    distinctLayers [] ls = ls ↔ (ls.map Layer.id).Nodup := by
  constructor
  · intro h
    rw [← h]
    exact nodup_ids_distinctLayers [] ls
  · exact fun hn => distinctLayers_eq_self hf hn fun l _ => List.not_mem_nil

namespace LayerIndex

/-- Into an index without layers come all candidates that count. -/
theorem added_reconcile_empty (ls : List Layer) :
    (LayerIndex.empty.reconcile ls).added = distinctLayers [] ls :=
  List.filter_eq_self.2 fun _ _ => rfl

/-! ## What stays of a candidate -/

/-- The layer that stays for a candidate: the indexed one if the candidate says nothing new. -/
def settle (i : LayerIndex) (candidate : Layer) : Layer :=
  (i.kept? candidate).getD candidate

theorem kept?_eq_some_iff {candidate old : Layer} :
    i.kept? candidate = some old ↔
      i.get? candidate.id = some old ∧ old.sameContent false candidate = true := by
  unfold kept?
  rw [Option.filter_eq_some_iff]

/-- What stays of a candidate is the candidate or an indexed layer with the same content. -/
theorem settle_cases (i : LayerIndex) (candidate : Layer) :
    i.settle candidate = candidate ∨
      i.get? candidate.id = some (i.settle candidate) ∧
        (i.settle candidate).sameContent false candidate = true := by
  unfold settle
  cases h : i.kept? candidate with
  | none => exact Or.inl rfl
  | some old => exact Or.inr (kept?_eq_some_iff.1 h)

theorem WF.id_settle (h : i.WF) (candidate : Layer) : (i.settle candidate).id = candidate.id := by
  rcases i.settle_cases candidate with hc | ⟨hg, -⟩
  · rw [hc]
  · exact h.id_eq hg

theorem WF.sourced_settle (h : i.WF) {candidate : Layer}
    (hc : ∃ source, candidate.source? = some source) :
    ∃ source, (i.settle candidate).source? = some source := by
  rcases i.settle_cases candidate with he | ⟨hg, -⟩
  · rwa [he]
  · exact h.sourced hg

/-- Every candidate is kept, added or updated. -/
theorem perm_map_settle (i : LayerIndex) (ls : List Layer) :
    (ls.filterMap i.kept? ++ ls.filter (fun l => !i.contains l.id) ++ ls.filter i.isUpdate).Perm
      (ls.map i.settle) := by
  induction ls with
  | nil => exact .nil
  | cons l ls ih =>
    cases hk : i.kept? l with
    | some old =>
      have hc : i.contains l.id = true := contains_iff.2 ⟨old, (kept?_eq_some_iff.1 hk).1⟩
      have hu : i.isUpdate l = false := by simp [isUpdate, hk]
      rw [List.filterMap_cons_some hk, List.filter_cons_of_neg (by simp [hc]),
        List.filter_cons_of_neg (by simp [hu]), List.map_cons, settle, hk]
      exact ih.cons old
    | none =>
      rw [List.filterMap_cons_none hk, List.map_cons, settle, hk, Option.getD_none]
      cases hc : i.contains l.id with
      | false =>
        rw [List.filter_cons_of_pos (by simp [hc]),
          List.filter_cons_of_neg (by simp [isUpdate, hc]), List.append_assoc, List.cons_append]
        exact List.perm_middle.trans ((List.append_assoc .. ▸ ih).cons l)
      | true =>
        rw [List.filter_cons_of_neg (by simp [hc]),
          List.filter_cons_of_pos (by simp [isUpdate, hc, hk])]
        exact List.perm_middle.trans (ih.cons l)

/-- What a comparison leaves: a layer for every candidate that counts. -/
theorem perm_present (i : LayerIndex) (existing candidates : List Layer) :
    (i.reconcileWith existing candidates).present.Perm
      ((distinctLayers [] candidates).map i.settle) :=
  i.perm_map_settle _

theorem mem_present_iff {existing candidates : List Layer} :
    l ∈ (i.reconcileWith existing candidates).present ↔
      ∃ c ∈ distinctLayers [] candidates, i.settle c = l := by
  rw [(i.perm_present existing candidates).mem_iff, List.mem_map]

theorem WF.nodup_ids_present (h : i.WF) (existing candidates : List Layer) :
    ((i.reconcileWith existing candidates).present.map Layer.id).Nodup := by
  refine ((i.perm_present existing candidates).map Layer.id).nodup_iff.2 ?_
  have hid : (Layer.id ∘ i.settle) = Layer.id := funext h.id_settle
  rw [List.map_map, hid]
  exact nodup_ids_distinctLayers [] candidates

theorem WF.sourced_present (h : i.WF) {existing candidates : List Layer}
    (hl : l ∈ (i.reconcileWith existing candidates).present) :
    ∃ source, l.source? = some source := by
  obtain ⟨c, hc, rfl⟩ := mem_present_iff.1 hl
  exact h.sourced_settle (sourced_of_mem_distinctLayers hc)

/-! ## The indexes that reconciliations make -/

/-- Layers with distinct ids are added unless their ids are in use. -/
theorem get?_addAll_eq_some_iff (hn : (ls.map Layer.id).Nodup)
    (hs : ∀ l ∈ ls, ∃ source, l.source? = some source) :
    (i.addAll ls).get? id = some l ↔
      i.get? id = some l ∨ i.get? id = none ∧ l ∈ ls ∧ l.id = id := by
  rw [get?_addAll, Option.or_eq_some_iff]
  refine or_congr_right (and_congr_right fun _ => ?_)
  constructor
  · intro hf
    have hp := List.find?_some hf
    rw [Bool.and_eq_true, beq_iff_eq] at hp
    exact ⟨List.mem_of_find?_eq_some hf, hp.2⟩
  · rintro ⟨hl, rfl⟩
    cases hf : ls.find? fun l' => l'.source?.isSome && l'.id == l.id with
    | none =>
      obtain ⟨source, hsource⟩ := hs l hl
      have := List.find?_eq_none.1 hf l hl
      simp [hsource] at this
    | some l' =>
      have hp := List.find?_some hf
      rw [Bool.and_eq_true, beq_iff_eq] at hp
      rw [List.inj_on_of_nodup_map hn (List.mem_of_find?_eq_some hf) hl hp.2]

theorem WF.get?_toIndex_reconcile (h : i.WF) (candidates : List Layer) :
    (i.reconcile candidates).toIndex.get? id = some l ↔
      ∃ c ∈ distinctLayers [] candidates, c.id = id ∧ i.settle c = l := by
  unfold Reconciliation.toIndex reconcile
  rw [get?_addAll_eq_some_iff (h.nodup_ids_present _ _) fun _ => h.sourced_present, get?_empty,
    mem_present_iff]
  constructor
  · rintro (hno | ⟨-, ⟨c, hc, rfl⟩, rfl⟩)
    · cases hno
    · exact ⟨c, hc, (h.id_settle c).symm, rfl⟩
  · rintro ⟨c, hc, rfl, rfl⟩
    exact Or.inr ⟨rfl, ⟨c, hc, rfl⟩, h.id_settle c⟩

/-- The index holds what stays of the candidates that count, and nothing else. -/
theorem WF.perm_layers_toIndex_reconcile (h : i.WF) (candidates : List Layer) :
    (i.reconcile candidates).toIndex.layers.Perm ((distinctLayers [] candidates).map i.settle) := by
  have hwf := WF.toIndex (i.reconcile candidates)
  have hids : (((distinctLayers [] candidates).map i.settle).map Layer.id).Nodup :=
    ((i.perm_present i.layers candidates).map Layer.id).nodup_iff.1 (h.nodup_ids_present _ _)
  refine (List.perm_ext_iff_of_nodup hwf.nodup_ids_layers.of_map hids.of_map).2 fun l => ?_
  rw [hwf.mem_layers, h.get?_toIndex_reconcile, List.mem_map]
  constructor
  · rintro ⟨c, hc, -, hl⟩
    exact ⟨c, hc, hl⟩
  · rintro ⟨c, hc, rfl⟩
    exact ⟨c, hc, (h.id_settle c).symm, rfl⟩

/-- The layers of other notes stay; a layer of the note comes in unless they use its id. -/
theorem WF.get?_applySource_reconcileSource (h : i.WF) (path : String) (candidates : List Layer) :
    (i.applySource path (i.reconcileSource path candidates)).get? id = some l ↔
      i.get? id = some l ∧ l.source? ≠ some ⟨path⟩ ∨
        (∀ l', i.get? id = some l' → l'.source? = some ⟨path⟩) ∧
          ∃ c ∈ distinctLayers [] candidates, c.id = id ∧ i.settle c = l := by
  unfold LayerIndex.applySource reconcileSource
  rw [get?_addAll_eq_some_iff (h.nodup_ids_present _ _) fun _ => h.sourced_present,
    h.get?_deleteSource_eq_filter, Option.filter_eq_some_iff, bne_iff_ne, mem_present_iff]
  refine or_congr_right (and_congr ?_ ?_)
  · rw [Option.filter_eq_none_iff]
    simp
  · constructor
    · rintro ⟨⟨c, hc, rfl⟩, rfl⟩
      exact ⟨c, hc, (h.id_settle c).symm, rfl⟩
    · rintro ⟨c, hc, rfl, rfl⟩
      exact ⟨⟨c, hc, rfl⟩, h.id_settle c⟩

end LayerIndex

end Gazetteer
