import Gazetteer.Index.Reconciliation

/-!
# Look-ups in an index

What each operation does to the layers found by id (`LayerIndex.get?`) and to the layers found by
note (`LayerIndex.layersOf`). The proofs about indexes use these equations and do not unfold the
operations.
-/

namespace Gazetteer

namespace LayerIndex

variable {i : LayerIndex} {l : Layer} {path id : String}

theorem get?_empty (id : String) : empty.get? id = none := rfl

theorem layersOf_empty (path : String) : empty.layersOf path = [] := rfl

theorem contains_iff : i.contains id = true ↔ ∃ l, i.get? id = some l :=
  SortedMap.contains_iff

theorem accepts_iff :
    i.accepts l = true ↔ (∃ source, l.source? = some source) ∧ i.get? l.id = none := by
  unfold accepts contains SortedMap.contains get?
  simp [Option.isSome_iff_exists]

theorem add_of_not_accepts (h : i.accepts l = false) : i.add l = i := by
  unfold accepts at h
  unfold add
  split
  · rfl
  · rename_i source hs
    rw [hs, Option.isSome_some, Bool.true_and, Bool.not_eq_false'] at h
    rw [if_pos h]

theorem add_of_accepts {source : SourceRef} (h : i.accepts l = true)
    (hs : l.source? = some source) :
    i.add l =
      { byId := i.byId.insert l.id l
        bySource := i.bySource.insert source.path (i.layersOf source.path ++ [l]) } := by
  unfold accepts at h
  rw [Bool.and_eq_true, Bool.not_eq_true'] at h
  unfold add
  rw [hs]
  simp only [h.2, Bool.false_eq_true, if_false]

theorem get?_add (i : LayerIndex) (l : Layer) (id : String) :
    (i.add l).get? id = if i.accepts l = true ∧ id = l.id then some l else i.get? id := by
  cases h : i.accepts l with
  | false => simp [add_of_not_accepts h]
  | true =>
    obtain ⟨⟨source, hs⟩, -⟩ := accepts_iff.1 h
    rw [add_of_accepts h hs, get?, SortedMap.get?_insert]
    simp [get?]

theorem layersOf_add (i : LayerIndex) (l : Layer) (path : String) :
    (i.add l).layersOf path =
      if i.accepts l = true ∧ l.source? = some ⟨path⟩ then i.layersOf path ++ [l]
      else i.layersOf path := by
  cases h : i.accepts l with
  | false => simp [add_of_not_accepts h]
  | true =>
    obtain ⟨⟨source, hs⟩, -⟩ := accepts_iff.1 h
    rw [add_of_accepts h hs, layersOf, SortedMap.get?_insert, hs]
    by_cases hp : path = source.path
    · subst hp
      simp
    · have hne : source ≠ ⟨path⟩ := fun he => hp (by rw [he])
      simp [hp, hne, layersOf]

/-- Layers are added in their order; an id that is in use stays with its layer. -/
theorem get?_addAll (i : LayerIndex) (ls : List Layer) (id : String) :
    (i.addAll ls).get? id =
      (i.get? id).or (ls.find? fun l => l.source?.isSome && l.id == id) := by
  unfold addAll
  induction ls generalizing i with
  | nil => simp
  | cons l ls ih =>
    rw [List.foldl_cons, ih, get?_add, List.find?_cons]
    by_cases hid : id = l.id
    · subst hid
      cases hs : l.source? with
      | none => simp [accepts, hs]
      | some source =>
        cases hg : i.get? l.id with
        | none => simp [accepts_iff, hs, hg]
        | some old => simp [accepts_iff, hg]
    · have hne : (l.id == id) = false := by simpa using Ne.symm hid
      simp [hid, hne]

theorem get?_delete (i : LayerIndex) (id id' : String) :
    (i.delete id).get? id' = if id' = id then none else i.get? id' := by
  unfold delete
  split
  · rename_i h
    by_cases he : id' = id
    · rw [if_pos he, he, h]
    · rw [if_neg he]
  · exact SortedMap.get?_erase

theorem getD_get?_removeFrom (m : SortedMap String (List Layer)) (path path' id : String) :
    ((removeFrom m path id).get? path').getD [] =
      if path' = path then ((m.get? path).getD []).filter (·.id != id)
      else (m.get? path').getD [] := by
  unfold removeFrom
  split
  · rename_i h
    split
    · rename_i hp
      rw [hp, h]
      rfl
    · rfl
  · rename_i ls h
    rw [h, Option.getD_some]
    by_cases hrest : (ls.filter (·.id != id)).isEmpty = true
    · simp only [hrest, if_true, SortedMap.get?_erase]
      rw [List.isEmpty_iff.1 hrest]
      split <;> rfl
    · simp only [hrest, Bool.false_eq_true, if_false, SortedMap.get?_insert]
      split <;> rfl

theorem get?_removeFrom_ne_nil {m : SortedMap String (List Layer)}
    (h : ∀ path, m.get? path ≠ some []) (path id path' : String) :
    (removeFrom m path id).get? path' ≠ some [] := by
  unfold removeFrom
  split
  · exact h path'
  · rename_i ls _
    simp only
    split
    · rw [SortedMap.get?_erase]
      split
      · simp
      · exact h path'
    · rename_i hrest
      rw [SortedMap.get?_insert]
      split
      · simpa using hrest
      · exact h path'

theorem layersOf_delete (i : LayerIndex) (id path : String) :
    (i.delete id).layersOf path =
      if (i.get? id).any (·.source? == some ⟨path⟩) = true then
        (i.layersOf path).filter (·.id != id)
      else i.layersOf path := by
  unfold delete
  split
  · rename_i h
    simp [h]
  · rename_i l h
    rw [h, Option.any_some]
    cases hs : l.source? with
    | none => simp [layersOf]
    | some source =>
      simp only [layersOf, getD_get?_removeFrom]
      by_cases hp : path = source.path
      · subst hp
        simp
      · have hne : source ≠ ⟨path⟩ := fun he => hp (by rw [he])
        simp [hp, hne]

theorem get?_foldl_erase (ls : List Layer) (m : SortedMap String Layer) (id : String) :
    (ls.foldl (fun m l => m.erase l.id) m).get? id =
      if id ∈ ls.map Layer.id then none else m.get? id := by
  induction ls generalizing m with
  | nil => simp
  | cons l ls ih =>
    rw [List.foldl_cons, ih, SortedMap.get?_erase, List.map_cons]
    by_cases h : id = l.id <;> simp [h]

theorem get?_deleteSource (i : LayerIndex) (path id : String) :
    (i.deleteSource path).get? id =
      if id ∈ (i.layersOf path).map Layer.id then none else i.get? id :=
  get?_foldl_erase _ _ _

theorem layersOf_deleteSource (i : LayerIndex) (path path' : String) :
    (i.deleteSource path).layersOf path' = if path' = path then [] else i.layersOf path' := by
  unfold deleteSource
  rw [layersOf, SortedMap.get?_erase]
  split <;> rfl

theorem replaced?_eq_some_iff {old : Layer} :
    i.replaced? l = some old ↔ i.get? l.id = some old ∧ old.source? = l.source? := by
  unfold replaced?
  rw [Option.filter_eq_some_iff, beq_iff_eq]

theorem get?_replace (i : LayerIndex) (l : Layer) (id : String) :
    (i.replace l).get? id =
      if (i.replaced? l).isSome = true ∧ id = l.id then some l else i.get? id := by
  unfold replace
  split
  · rename_i h
    simp [h]
  · rename_i old h
    rw [get?, SortedMap.get?_insert, h]
    simp [get?]

/-! ## A layer in the place of another -/

theorem map_id_inPlace (l : Layer) (ls : List Layer) :
    (inPlace l ls).map Layer.id = ls.map Layer.id := by
  induction ls with
  | nil => rfl
  | cons old ls ih =>
    unfold inPlace
    split
    · rename_i h
      simp [h]
    · simp [ih]

/-- If no id comes twice, the layer with the id is replaced and the others stay. -/
theorem mem_inPlace {ls : List Layer} (hn : (ls.map Layer.id).Nodup) {l' : Layer} :
    l' ∈ inPlace l ls ↔ (l' = l ∧ l.id ∈ ls.map Layer.id) ∨ (l' ∈ ls ∧ l'.id ≠ l.id) := by
  induction ls with
  | nil => simp [inPlace]
  | cons old ls ih =>
    rw [List.map_cons, List.nodup_cons] at hn
    unfold inPlace
    split
    · rename_i h
      have hout : ∀ x ∈ ls, x.id ≠ l.id := fun x hx he =>
        hn.1 (h ▸ he ▸ List.mem_map_of_mem hx)
      simp only [List.mem_cons, List.map_cons, h, true_or, and_true]
      refine ⟨fun h' => h'.imp id fun hx => ⟨Or.inr hx, hout _ hx⟩, ?_⟩
      rintro (h' | ⟨rfl | hx, hne⟩)
      · exact Or.inl h'
      · exact absurd h hne
      · exact Or.inr hx
    · rename_i h
      simp only [List.mem_cons, List.map_cons, ih hn.2, Ne.symm h, false_or]
      constructor
      · rintro (rfl | h' | ⟨hx, hne⟩)
        · exact Or.inr ⟨Or.inl rfl, h⟩
        · exact Or.inl h'
        · exact Or.inr ⟨Or.inr hx, hne⟩
      · rintro (h' | ⟨rfl | hx, hne⟩)
        · exact Or.inr (Or.inl h')
        · exact Or.inl rfl
        · exact Or.inr (Or.inr ⟨hx, hne⟩)

theorem getD_get?_putInto (m : SortedMap String (List Layer)) (path path' : String) (l : Layer) :
    ((putInto m path l).get? path').getD [] =
      if path' = path then inPlace l ((m.get? path).getD []) else (m.get? path').getD [] := by
  unfold putInto
  split
  · rename_i h
    split
    · rename_i hp
      rw [hp, h]
      rfl
    · rfl
  · rename_i ls h
    rw [SortedMap.get?_insert, h]
    split <;> rfl

theorem get?_putInto_ne_nil {m : SortedMap String (List Layer)}
    (h : ∀ path, m.get? path ≠ some []) (path path' : String) (l : Layer) :
    (putInto m path l).get? path' ≠ some [] := by
  unfold putInto
  split
  · exact h path'
  · rename_i ls hls
    rw [SortedMap.get?_insert]
    split
    · intro hnil
      have hids := map_id_inPlace l ls
      rw [Option.some.inj hnil] at hids
      rw [List.map_eq_nil_iff.1 hids.symm] at hls
      exact h path hls
    · exact h path'

theorem layersOf_replace (i : LayerIndex) (l : Layer) (path : String) :
    (i.replace l).layersOf path =
      if (i.replaced? l).isSome = true ∧ l.source? = some ⟨path⟩ then inPlace l (i.layersOf path)
      else i.layersOf path := by
  unfold replace
  split
  · rename_i h
    simp [h]
  · rename_i old h
    rw [h, layersOf, (replaced?_eq_some_iff.1 h).2]
    cases hs : l.source? with
    | none => simp [layersOf]
    | some source =>
      simp only [getD_get?_putInto]
      by_cases hp : path = source.path
      · subst hp
        simp [layersOf]
      · have hne : source ≠ ⟨path⟩ := fun he => hp (by rw [he])
        simp [hp, hne, layersOf]

theorem map_id_layersOf_replace (i : LayerIndex) (l : Layer) (path : String) :
    ((i.replace l).layersOf path).map Layer.id = (i.layersOf path).map Layer.id := by
  rw [layersOf_replace]
  split
  · exact map_id_inPlace l _
  · rfl

end LayerIndex

end Gazetteer
