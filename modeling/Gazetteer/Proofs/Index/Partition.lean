import Gazetteer.Proofs.Index.Repetition
import Mathlib.Data.String.Basic

/-!
# What becomes of each candidate

A comparison looks at the candidates one by one and remembers the ids it has seen. What it looks at
closer is, of the candidates that come from notes, the first with each id
(`distinctLayers_eq_eraseDupsBy`). Each of these goes to exactly one of three lists, in order, and
the indexed layers that none of them stands for go to a fourth one, in the order of their ids
(`WF.pairwise_layers`). The next index is a function on the ids of the first candidates
(`WF.get?_toIndex_eq_map`).
-/

namespace Gazetteer

variable {i : LayerIndex} {ls : List Layer} {seen : List String}

/-! ## The candidates that count -/

theorem Layer.isFloating_eq_not_isSome (l : Layer) : l.isFloating = !l.source?.isSome := by
  cases hs : l.source? with
  | some source => exact Layer.isFloating_eq_false_iff.2 ⟨source, hs⟩
  | none =>
    cases hf : l.isFloating with
    | true => rfl
    | false =>
      obtain ⟨source, hsource⟩ := Layer.isFloating_eq_false_iff.1 hf
      rw [hs] at hsource
      cases hsource

/-- The candidates that count are the first with their ids among those that come from notes and
whose ids are not seen. -/
theorem distinctLayers_eq_eraseDupsBy_of_seen (seen : List String) (ls : List Layer) :
    distinctLayers seen ls =
      (ls.filter fun l => l.source?.isSome && !seen.contains l.id).eraseDupsBy
        fun a b => a.id == b.id := by
  induction ls generalizing seen with
  | nil => rfl
  | cons l ls ih =>
    have hskip : (l.isFloating || seen.contains l.id) =
        !(l.source?.isSome && !seen.contains l.id) := by
      rw [l.isFloating_eq_not_isSome, Bool.not_and, Bool.not_not]
    unfold distinctLayers
    rw [hskip, List.filter_cons]
    cases l.source?.isSome && !seen.contains l.id with
    | false => exact ih seen
    | true =>
      -- Behind a first layer its id is seen, and those with its id are erased.
      have hrest : (fun b : Layer => decide ((b.id == l.id) = false) &&
          (b.source?.isSome && !seen.contains b.id)) =
          fun b => b.source?.isSome && !(l.id :: seen).contains b.id := by
        funext b
        rw [List.contains_cons, Bool.not_or, Bool.and_left_comm]
        cases b.id == l.id <;> rfl
      rw [if_pos rfl, List.eraseDupsBy_cons, List.filter_filter, hrest, ← ih]
      rfl

theorem distinctLayers_eq_eraseDupsBy (ls : List Layer) :
    distinctLayers [] ls =
      (ls.filter fun l => l.source?.isSome).eraseDupsBy fun a b => a.id == b.id := by
  rw [distinctLayers_eq_eraseDupsBy_of_seen]
  simp only [List.contains_nil, Bool.not_false, Bool.and_true]

namespace LayerIndex

/-! ## The order of the indexed layers -/

theorem WF.pairwise_layers (h : i.WF) : i.layers.Pairwise fun a b => a.id < b.id := by
  have hids : i.ids.Pairwise (· < ·) :=
    List.pairwise_map.2 (i.byId.ordered.imp compare_lt_iff_lt.1)
  rw [← h.map_id_layers] at hids
  exact List.pairwise_map.1 hids

/-! ## The lists -/

variable {c : Layer} {candidates : List Layer}

theorem isSome_kept? (i : LayerIndex) (c : Layer) :
    (i.kept? c).isSome = (i.get? c.id).any fun old => old.sameContent false c := by
  unfold kept?
  cases i.get? c.id with
  | none => rfl
  | some old => cases h : old.sameContent false c <;> simp [h]

/-- Layers that are kept are those that are indexed. -/
theorem map_some_filterMap_kept? (i : LayerIndex) (ls : List Layer) :
    (ls.filterMap i.kept?).map some =
      (ls.filter fun c => (i.kept? c).isSome).map fun c => i.get? c.id := by
  induction ls with
  | nil => rfl
  | cons l ls ih =>
    cases hk : i.kept? l with
    | none => rw [List.filterMap_cons_none hk, List.filter_cons_of_neg (by simp [hk]), ih]
    | some old =>
      rw [List.filterMap_cons_some hk, List.filter_cons_of_pos (by simp [hk]), List.map_cons,
        List.map_cons, ih, (kept?_eq_some_iff.1 hk).1]

/-- A candidate that counts is the first one with its id, and the only one. -/
theorem find?_distinctLayers_eq_some_iff {id : String} :
    (distinctLayers [] candidates).find? (fun c => c.id == id) = some c ↔
      c ∈ distinctLayers [] candidates ∧ c.id = id := by
  constructor
  · intro hf
    exact ⟨List.mem_of_find?_eq_some hf, by simpa using List.find?_some hf⟩
  · rintro ⟨hc, rfl⟩
    cases hf : (distinctLayers [] candidates).find? fun c' => c'.id == c.id with
    | none => simpa using List.find?_eq_none.1 hf c hc
    | some c' =>
      have hid : c'.id = c.id := by simpa using List.find?_some hf
      rw [List.inj_on_of_nodup_map (nodup_ids_distinctLayers [] candidates)
        (List.mem_of_find?_eq_some hf) hc hid]

theorem WF.get?_toIndex_eq_map (h : i.WF) (candidates : List Layer) (id : String) :
    (i.reconcile candidates).toIndex.get? id =
      ((distinctLayers [] candidates).find? fun c => c.id == id).map i.settle := by
  refine Option.ext fun l => ?_
  rw [h.get?_toIndex_reconcile, Option.map_eq_some_iff]
  simp only [find?_distinctLayers_eq_some_iff, and_assoc]

/-- No candidate that counts is lost, and none comes twice. -/
theorem WF.perm_ids_reconcile (h : i.WF) (candidates : List Layer) :
    (((i.reconcile candidates).kept ++ (i.reconcile candidates).added ++
      (i.reconcile candidates).updated).map Layer.id).Perm
        ((distinctLayers [] candidates).map Layer.id) := by
  have hid : Layer.id ∘ i.settle = Layer.id := funext h.id_settle
  refine ((i.perm_present i.layers candidates).map Layer.id).trans ?_
  rw [List.map_map, hid]

/-- **Each candidate that counts has one fate.** Of the candidates that come from notes let `first`
be those that are the first with their ids, in order. A comparison with the whole index keeps the
indexed layer of each of them that says the same, updates each other one whose id is indexed, and
adds each one whose id is not; all three lists are in the order of the candidates, and together they
hold every id of `first` once. It removes, in the order of their ids, the indexed layers whose ids
are not among those of `first`. The next index has under the id of each of them the layer that was
kept, or the candidate, and nothing under any other id. -/
theorem WF.reconcile_splits (h : i.WF) (candidates : List Layer) :
    let first := (candidates.filter fun c => c.source?.isSome).eraseDupsBy fun a b => a.id == b.id
    let same (c : Layer) : Bool := (i.get? c.id).any fun old => old.sameContent false c
    let r := i.reconcile candidates
    r.kept.map some = (first.filter same).map (fun c => i.get? c.id) ∧
      r.updated = first.filter (fun c => i.contains c.id && !same c) ∧
      r.added = first.filter (fun c => !i.contains c.id) ∧
      ((r.kept ++ r.added ++ r.updated).map Layer.id).Perm (first.map Layer.id) ∧
      (first.map Layer.id).Nodup ∧
      r.removed.Pairwise (fun a b => a.id < b.id) ∧
      (∀ l, l ∈ r.removed ↔ i.get? l.id = some l ∧ ∀ c ∈ first, c.id ≠ l.id) ∧
      r.toIndex.WF ∧
      ∀ id, r.toIndex.get? id =
        (first.find? fun c => c.id == id).bind fun c => if same c then i.get? id else some c := by
  intro first same r
  have hfirst : distinctLayers [] candidates = first := distinctLayers_eq_eraseDupsBy candidates
  have hsame : ∀ c, (i.kept? c).isSome = same c := i.isSome_kept?
  refine ⟨?_, ?_, ?_, ?_, ?_, ?_, ?_, WF.toIndex r, ?_⟩
  · rw [← hfirst, ← funext hsame]
    exact i.map_some_filterMap_kept? _
  · rw [← hfirst]
    refine List.filter_congr fun c _ => ?_
    rw [← hsame, Option.not_isSome]
    rfl
  · rw [← hfirst]
    rfl
  · rw [← hfirst]
    exact h.perm_ids_reconcile candidates
  · rw [← hfirst]
    exact nodup_ids_distinctLayers [] candidates
  · exact h.pairwise_layers.sublist List.filter_sublist
  · intro l
    rw [← hfirst]
    show l ∈ i.layers.filter _ ↔ _
    rw [List.mem_filter, h.mem_layers, Bool.not_eq_true', List.any_eq_false]
    simp only [beq_iff_eq]
  · intro id
    rw [← hfirst, h.get?_toIndex_eq_map]
    cases hf : (distinctLayers [] candidates).find? fun c => c.id == id with
    | none => rfl
    | some c =>
      obtain ⟨-, rfl⟩ := find?_distinctLayers_eq_some_iff.1 hf
      rw [Option.map_some, Option.bind_some, ← hsame, settle]
      cases hk : i.kept? c with
      | none => rfl
      | some old => exact (kept?_eq_some_iff.1 hk).1.symm

/-- A name that changes, a place that stays, an id that changes from a geometry to a place, a layer
that goes, a new one, an id used twice and a floating layer. -/
theorem WF.reconcile_splits_mixed :
    let place (id name : String) : Layer :=
      .marker ⟨{ source := ⟨"A.md"⟩, id, displayName := some name }, ⟨1.0, 2.0⟩, .empty, 0⟩
    let area : Layer := .geometry
      ⟨{ source := ⟨"A.md"⟩, id := "c" }, .geometry (.point [2.0, 1.0]), .geoJson, .empty⟩
    let i := LayerIndex.empty.addAll [place "e" "gone", place "a" "old", place "b" "same", area]
    let candidates := [place "d" "new", .floatingMarker ⟨⟨1.0, 2.0⟩, none, .empty, []⟩,
      place "c" "point", place "a" "new", place "b" "same", place "b" "other"]
    let r := i.reconcile candidates
    i.WF ∧ r.kept.map some = ["b"].map i.get? ∧ r.updated.map Layer.id = ["c", "a"] ∧
      r.added.map Layer.id = ["d"] ∧ r.removed.map Layer.id = ["e"] ∧
      ["a", "b", "c", "d", "e"].map (fun id => (r.toIndex.get? id).map Layer.displayName?) =
        [some (some "new"), some (some "same"), some (some "point"), some (some "new"), none] := by
  intro place area i candidates r
  have hi : i.WF := WF.empty.addAll _
  obtain ⟨hkept, hupdated, hadded, -, -, -, -, -, hget⟩ := hi.reconcile_splits candidates
  refine ⟨hi, hkept.trans ?_, ?_, ?_, ?_, ?_⟩
  · have hmap : ∀ ls : List Layer, ls.map (fun c => i.get? c.id) = (ls.map Layer.id).map i.get? :=
      fun ls => List.map_map.symm
    rw [hmap]
    refine congrArg (List.map i.get?) ?_
    decide +kernel
  · rw [show r.updated = _ from hupdated]
    decide +kernel
  · rw [show r.added = _ from hadded]
    decide +kernel
  · decide +kernel
  · rw [funext fun id => congrArg (Option.map Layer.displayName?) (hget id)]
    decide +kernel

end LayerIndex

end Gazetteer
