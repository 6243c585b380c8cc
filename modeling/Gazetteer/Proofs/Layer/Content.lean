import Gazetteer.Layer.Basic

/-!
# Layers with the same content

A layer that comes from a note has the same content as itself, with one exception: two opacities
that are no numbers count as different, so a marker with such an icon always says something new. Of
the paths of their notes only the file names are compared.
-/

namespace Gazetteer

theorem beq_self_of_isNaN_eq_false {x : Float} (h : x.isNaN = false) : (x == x) = true := by
  -- Equality of doubles is that of their unpacked forms, where only one form differs from itself.
  have hform : ∀ u : Float.Model.UnpackedFloat, u.isNaN = false → u.beq u = true := by
    intro u hu
    unfold Float.Model.UnpackedFloat.beq
    cases u with
    | notANumber => cases hu
    | infinity s => cases s <;> rfl
    | zero s => rfl
    | finite s m e =>
      have hsize : (compare e e).then (compare m m) = .eq := by
        rw [Std.ReflOrd.compare_self, Std.ReflOrd.compare_self]
        rfl
      cases s with
      | negative =>
        show (some ((compare e e).then (compare m m)).swap == some .eq) = true
        rw [hsize]
        rfl
      | positive =>
        show (some ((compare e e).then (compare m m)) == some .eq) = true
        rw [hsize]
        rfl
  exact hform _ h

theorem beq_eq_false_of_isNaN (x : Float) {y : Float} (h : y.isNaN = true) : (x == y) = false := by
  have hform : ∀ u v : Float.Model.UnpackedFloat, v.isNaN = true → u.beq v = false := by
    intro u v hv
    cases v with
    | notANumber => cases u <;> rfl
    | infinity s => cases hv
    | zero s => cases hv
    | finite s m e => cases hv
  exact hform _ _ h

/-- The opacity of an icon is a number, if it has one. -/
def Icon.HasNumbers (i : Icon) : Prop :=
  ∀ opacity, i.opacity = some opacity → opacity.isNaN = false

instance (i : Icon) : Decidable i.HasNumbers :=
  decidable_of_iff (i.opacity.all (fun opacity => !opacity.isNaN) = true)
    (by simp [Icon.HasNumbers, Option.all_eq_true])

theorem Icon.HasNumbers.beq_self {i : Icon} (h : i.HasNumbers) : (i == i) = true := by
  have hopacity : (i.opacity == i.opacity) = true := by
    cases ho : i.opacity with
    | none => rfl
    | some opacity => exact beq_self_of_isNaN_eq_false (h opacity ho)
  show instBEqIcon.beq i i = true
  unfold instBEqIcon.beq
  simp [hopacity]

/-- An icon that equals any other has a number for its opacity. -/
theorem Icon.HasNumbers.of_beq {i i' : Icon} (h : (i == i') = true) : i'.HasNumbers := by
  intro opacity ho
  have hall : instBEqIcon.beq i i' = true := h
  unfold instBEqIcon.beq at hall
  simp only [Bool.and_eq_true] at hall
  obtain ⟨-, -, -, -, -, hopacity⟩ := hall
  rw [ho] at hopacity
  cases hi : i.opacity with
  | none =>
    rw [hi] at hopacity
    cases hopacity
  | some opacity' =>
    have heq : (opacity' == opacity) = true := by
      rw [hi] at hopacity
      exact hopacity
    cases hnan : opacity.isNaN with
    | false => rfl
    | true =>
      rw [beq_eq_false_of_isNaN opacity' hnan] at heq
      cases heq

/-- An icon equals itself unless its opacity is no number. -/
theorem Icon.beq_self_iff {i : Icon} : (i == i) = true ↔ i.HasNumbers :=
  ⟨HasNumbers.of_beq, HasNumbers.beq_self⟩

namespace Layer

/-- A layer from a note has its own content, unless it is a marker whose icon differs from
itself. -/
theorem sameContent_self_eq {l : Layer} (hs : ∃ source, l.source? = some source) :
    l.sameContent false l = l.marker?.all fun m => m.icon == m.icon := by
  cases l with
  | marker m => simp [sameContent, Marker.sameContent, LayerInfo.samePosition, marker?]
  | geometry g =>
    simp [sameContent, GeometryLayer.sameContent, LayerInfo.samePosition, marker?]
  | floatingMarker m => obtain ⟨source, hs⟩ := hs; cases hs
  | floatingGeometry g => obtain ⟨source, hs⟩ := hs; cases hs

/-- What has the content of some layer can be compared with itself: its icon, if it has one, is one
that something equals. -/
theorem sameContent_self_of_sameContent {l l' : Layer} (h : l.sameContent false l' = true) :
    l'.sameContent false l' = true := by
  cases l' with
  | marker m' =>
    cases l with
    | marker m =>
      simp only [sameContent, Marker.sameContent, Bool.and_eq_true] at h
      rw [sameContent_self_eq ⟨_, rfl⟩]
      exact (Icon.HasNumbers.of_beq h.2).beq_self
    | _ => cases h
  | geometry g' => exact sameContent_self_eq ⟨_, rfl⟩
  | floatingMarker m' => cases l <;> cases h
  | floatingGeometry g' => cases l <;> cases h

theorem sameContent_self {l : Layer} (hs : ∃ source, l.source? = some source)
    (hicon : ∀ m, l = .marker m → m.icon.HasNumbers) : l.sameContent false l = true := by
  rw [sameContent_self_eq hs]
  cases l with
  | marker m => exact (hicon m rfl).beq_self
  | _ => rfl

/-- Layers with the same content are from notes with the same name. -/
theorem name_eq_of_sameContent {l l' : Layer} {source t : SourceRef}
    (h : l.sameContent false l' = true) (hl : l.source? = some source)
    (hl' : l'.source? = some t) : source.name = t.name := by
  have hposition : ∀ i i' : LayerInfo,
      i.samePosition i' = true → i.source.name = i'.source.name := by
    intro i i' hi
    unfold LayerInfo.samePosition at hi
    rw [Bool.and_eq_true, Bool.and_eq_true, beq_iff_eq] at hi
    exact hi.1.1
  cases l <;> cases l' <;> cases hl <;> cases hl'
  case marker.marker.refl.refl m m' =>
    simp only [sameContent, Marker.sameContent, Bool.and_eq_true] at h
    exact hposition _ _ h.1.1.1.1
  case geometry.geometry.refl.refl g g' => exact hposition _ _ h
  all_goals cases h

end Layer

end Gazetteer
