import Gazetteer.Proofs.Index.Reconciliation
import Gazetteer.Proofs.Layer.Content

/-!
# Reconciling twice with the same candidates

After a reconciliation the index holds one layer for every candidate that counts: the candidate, or
the layer that was indexed under its id and says the same. So a second reconciliation with the same
candidates finds each of them, adds nothing and removes nothing, and keeps what it finds
(`WF.kept?_again`) as long as the candidate can be compared with itself. A marker whose icon has an
opacity that is no number cannot: it says something new every time.
-/

namespace Gazetteer

variable {i : LayerIndex} {c : Layer} {ls candidates : List Layer} {seen : List String}

/-! ## The candidates that count -/

/-- A layer counts among candidates if it is not floating and no earlier one, floating ones aside,
has its id. -/
def Layer.CountsIn (c : Layer) (candidates : List Layer) : Prop :=
  ∃ before after, candidates = before ++ c :: after ∧ c.isFloating = false ∧
    ∀ b ∈ before, b.isFloating = false → b.id ≠ c.id

/-- What counts behind a first candidate counts unless that one has its id. -/
theorem Layer.countsIn_cons {l : Layer} :
    c.CountsIn (l :: ls) ↔
      (c = l ∧ l.isFloating = false) ∨
        (c.CountsIn ls ∧ (l.isFloating = false → l.id ≠ c.id)) := by
  constructor
  · rintro ⟨before, after, heq, hf, hno⟩
    cases before with
    | nil =>
      obtain ⟨rfl, rfl⟩ := List.cons.inj heq
      exact Or.inl ⟨rfl, hf⟩
    | cons b before =>
      obtain ⟨rfl, rfl⟩ := List.cons.inj heq
      exact Or.inr ⟨⟨before, after, rfl, hf, fun b hb => hno b (List.mem_cons_of_mem _ hb)⟩,
        hno l List.mem_cons_self⟩
  · rintro (⟨rfl, hf⟩ | ⟨⟨before, after, rfl, hf, hno⟩, hl⟩)
    · exact ⟨[], ls, rfl, hf, fun b hb => absurd hb List.not_mem_nil⟩
    · refine ⟨l :: before, after, rfl, hf, fun b hb => ?_⟩
      rcases List.mem_cons.1 hb with rfl | hb
      · exact hl
      · exact hno b hb

theorem mem_distinctLayers_iff_seen :
    c ∈ distinctLayers seen ls ↔ c.id ∉ seen ∧ c.CountsIn ls := by
  induction ls generalizing seen with
  | nil => simp [distinctLayers, Layer.CountsIn]
  | cons l ls ih =>
    rw [Layer.countsIn_cons]
    unfold distinctLayers
    split
    · rename_i hskip
      rw [Bool.or_eq_true, List.contains_iff_mem] at hskip
      rw [ih]
      refine and_congr_right fun hc => ⟨fun hin => Or.inr ⟨hin, fun hf he => ?_⟩, ?_⟩
      · rcases hskip with hfl | hmem
        · rw [hfl] at hf
          cases hf
        · exact hc (he ▸ hmem)
      · rintro (⟨rfl, hf⟩ | ⟨hin, -⟩)
        · rcases hskip with hfl | hmem
          · rw [hfl] at hf
            cases hf
          · exact absurd hmem hc
        · exact hin
    · rename_i hskip
      rw [Bool.or_eq_true, not_or, List.contains_iff_mem, Bool.not_eq_true] at hskip
      rw [List.mem_cons, ih, List.mem_cons, not_or]
      constructor
      · rintro (rfl | ⟨⟨hne, hc⟩, hin⟩)
        · exact ⟨hskip.2, Or.inl ⟨rfl, hskip.1⟩⟩
        · exact ⟨hc, Or.inr ⟨hin, fun _ => Ne.symm hne⟩⟩
      · rintro ⟨hc, ⟨rfl, -⟩ | ⟨hin, hl⟩⟩
        · exact Or.inl rfl
        · exact Or.inr ⟨⟨Ne.symm (hl hskip.1), hc⟩, hin⟩

theorem mem_distinctLayers_iff : c ∈ distinctLayers [] ls ↔ c.CountsIn ls := by
  simp [mem_distinctLayers_iff_seen]

/-! ## The second time -/

namespace LayerIndex

/-- What stays of a candidate has its content if the candidate has. -/
theorem sameContent_settle : (i.settle c).sameContent false c = c.sameContent false c := by
  rcases i.settle_cases c with hsame | ⟨-, hsame⟩
  · rw [hsame]
  · rw [hsame, Layer.sameContent_self_of_sameContent hsame]

section Again

variable (h : i.WF)

include h

theorem WF.get?_again (hc : c ∈ distinctLayers [] candidates) :
    (i.reconcile candidates).toIndex.get? c.id = some (i.settle c) :=
  (h.get?_toIndex_reconcile candidates).2 ⟨c, hc, rfl, rfl⟩

/-- A candidate that can be compared with itself keeps the layer that the first time left. -/
theorem WF.kept?_again (hc : c ∈ distinctLayers [] candidates) :
    (i.reconcile candidates).toIndex.kept? c =
      if c.sameContent false c = true then some (i.settle c) else none := by
  unfold kept?
  rw [h.get?_again hc, Option.filter_some, sameContent_settle]

theorem WF.contains_again (hc : c ∈ distinctLayers [] candidates) :
    (i.reconcile candidates).toIndex.contains c.id = true :=
  contains_iff.2 ⟨_, h.get?_again hc⟩

theorem WF.added_again :
    ((i.reconcile candidates).toIndex.reconcile candidates).added = [] :=
  List.filter_eq_nil_iff.2 fun c hc => by simp [h.contains_again hc]

theorem WF.removed_again :
    ((i.reconcile candidates).toIndex.reconcile candidates).removed = [] := by
  refine List.filter_eq_nil_iff.2 fun old hold => ?_
  obtain ⟨c, hc, hid, -⟩ := (h.get?_toIndex_reconcile candidates).1
    ((WF.toIndex (i.reconcile candidates)).mem_layers.1 hold)
  rw [Bool.not_eq_true, Bool.not_eq_false', List.any_eq_true]
  exact ⟨c, hc, beq_iff_eq.2 hid⟩

theorem WF.updated_again :
    ((i.reconcile candidates).toIndex.reconcile candidates).updated =
      (distinctLayers [] candidates).filter fun c => !c.sameContent false c := by
  refine List.filter_congr fun c hc => ?_
  unfold isUpdate
  rw [h.contains_again hc, h.kept?_again hc]
  cases c.sameContent false c <;> rfl

theorem WF.kept_again :
    ((i.reconcile candidates).toIndex.reconcile candidates).kept =
      ((distinctLayers [] candidates).filter fun c => c.sameContent false c).map i.settle := by
  rw [← List.filterMap_eq_map, List.filterMap_filter]
  exact List.filterMap_congr fun c hc => h.kept?_again hc

/-- Nothing changes the second time if every candidate that counts can be compared with itself. -/
theorem WF.isUnchanged_again
    (hself : ∀ c ∈ distinctLayers [] candidates, c.sameContent false c = true) :
    ((i.reconcile candidates).toIndex.reconcile candidates).isUnchanged = true := by
  have hupdated : ((i.reconcile candidates).toIndex.reconcile candidates).updated = [] := by
    rw [h.updated_again, List.filter_eq_nil_iff]
    intro c hc
    simp [hself c hc]
  unfold Reconciliation.isUnchanged
  rw [h.added_again, hupdated, h.removed_again]
  rfl

end Again

/-- **Reconciling again changes nothing but what cannot be compared.** Whatever the index and the
candidates are, floating ones and ones with the same id among them, a second reconciliation with the
same candidates adds nothing and removes nothing. Of the first candidates with their ids it updates
the markers whose icons differ from themselves; for every other one it keeps the layer that the
first reconciliation left. So it changes nothing if all opacities of markers are numbers. -/
theorem WF.reconcile_again (h : i.WF) (candidates : List Layer) :
    let first := distinctLayers [] candidates
    let j := (i.reconcile candidates).toIndex
    let r := j.reconcile candidates
    (∀ c, c ∈ first ↔ c.CountsIn candidates) ∧
      r.added = [] ∧ r.removed = [] ∧
      r.updated = first.filter (fun c => c.marker?.any fun m => m.icon != m.icon) ∧
      r.kept.map some =
        (first.filter fun c => !c.marker?.any fun m => m.icon != m.icon).map
          (fun c => j.get? c.id) ∧
      ((∀ m, .marker m ∈ candidates → m.icon.HasNumbers) → r.isUnchanged = true) := by
  intro first j r
  have hself : ∀ c ∈ first,
      c.sameContent false c = !c.marker?.any fun m => m.icon != m.icon := by
    intro c hc
    rw [Layer.sameContent_self_eq (sourced_of_mem_distinctLayers hc)]
    cases c.marker? with
    | none => rfl
    | some m => exact (Bool.not_not _).symm
  have hupdated : r.updated = first.filter fun c => c.marker?.any fun m => m.icon != m.icon := by
    rw [show r.updated = _ from h.updated_again]
    refine List.filter_congr fun c hc => ?_
    rw [hself c hc, Bool.not_not]
  refine ⟨fun c => mem_distinctLayers_iff, h.added_again, h.removed_again, hupdated, ?_, ?_⟩
  · rw [show r.kept = _ from h.kept_again, List.filter_congr hself, List.map_map]
    exact List.map_congr_left fun c hc => (h.get?_again (List.mem_of_mem_filter hc)).symm
  · intro hicon
    refine h.isUnchanged_again fun c hc => ?_
    exact Layer.sameContent_self (sourced_of_mem_distinctLayers hc) fun m hm =>
      hicon m (hm ▸ mem_of_mem_distinctLayers hc)

/-- A name that changes, an id that changes from a geometry to a place, an id used twice, a floating
layer and an opacity that is no number. -/
theorem WF.reconcile_again_mixed :
    let place (id name : String) (opacity : Option Float) : Layer :=
      .marker ⟨{ source := ⟨"A.md"⟩, id, displayName := some name }, ⟨1.0, 2.0⟩, { opacity }, 0⟩
    let area : Layer := .geometry
      ⟨{ source := ⟨"A.md"⟩, id := "c" }, .geometry (.point [2.0, 1.0]), .geoJson, .empty⟩
    let i := LayerIndex.empty.addAll [place "a" "old" none, place "b" "same" none, area]
    let candidates := [.floatingMarker ⟨⟨1.0, 2.0⟩, none, .empty, []⟩, place "a" "new" none,
      place "b" "same" none, place "b" "other" none, place "c" "point" (some 0.5),
      place "d" "faint" (some (0.0 / 0.0))]
    let j := (i.reconcile candidates).toIndex
    let r := j.reconcile candidates
    i.WF ∧ r.added = [] ∧ r.removed = [] ∧ r.updated.map Layer.id = ["d"] ∧
      r.kept.map some = ["a", "b", "c"].map j.get? := by
  intro place area i candidates j r
  have hi : i.WF := WF.empty.addAll _
  obtain ⟨-, hadded, hremoved, hupdated, hkept, -⟩ := hi.reconcile_again candidates
  refine ⟨hi, hadded, hremoved, ?_, hkept.trans ?_⟩
  · rw [show r.updated = _ from hupdated]
    decide +kernel
  · have hmap : ∀ (ls : List Layer) (f : String → Option Layer),
        ls.map (fun c => f c.id) = (ls.map Layer.id).map f := fun ls f => List.map_map.symm
    have hids : ((distinctLayers [] candidates).filter fun c =>
        !c.marker?.any fun m => m.icon != m.icon).map Layer.id = ["a", "b", "c"] := by
      decide +kernel
    rw [hmap, hids]

end LayerIndex

end Gazetteer
