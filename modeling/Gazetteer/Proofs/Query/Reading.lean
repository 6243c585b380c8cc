import Gazetteer.Proofs.Layer.Building
import Gazetteer.Proofs.Layer.Content
import Gazetteer.Proofs.Link.Relation

/-!
# What a query reads of a layer

A predicate asks whether a layer is a marker, and then for its tags, its name, its line or its note.
Layers with the same content agree in all of this but the tags and the folder of the note
(`Layer.LooksLike`), so a query tells them apart only if it asks for one of these
(`Query.isMatch_congr_of_looksLike`).
-/

namespace Gazetteer

variable {notes : Notes} {l l' l₁ : Layer} {q : Query} {p : Query.Predicate}

namespace Query

/-- Whether a predicate asks for tags. -/
def Predicate.asksTags : Predicate → Bool
  | .tag _ => true
  | _ => false

/-- Whether a predicate asks which note a layer comes from. -/
def Predicate.asksNote : Predicate → Bool
  | .path _ | .linkedTo _ | .linkedFrom _ => true
  | _ => false

/-- The predicates of a query. -/
def predicates (q : Query) : List Predicate :=
  q.steps.filterMap fun
    | .test p => some p
    | .apply _ => none

theorem mem_predicates_of_mem_steps (h : .test p ∈ q.steps) : p ∈ q.predicates :=
  List.mem_filterMap.2 ⟨_, h, rfl⟩

/-- A query asks something of some kind. -/
def Asks (q : Query) (kind : Predicate → Bool) : Prop :=
  ∃ p ∈ q.predicates, kind p = true

instance (q : Query) (kind : Predicate → Bool) : Decidable (q.Asks kind) :=
  inferInstanceAs (Decidable (∃ p ∈ q.predicates, kind p = true))

end Query

/-- The file name without its extension is part of the file name. -/
theorem SourceRef.baseName_congr {source t : SourceRef} (h : source.name = t.name) :
    source.baseName = t.baseName := by
  have hparts : source.link.parts.2 = t.link.parts.2 := String.ofList_injective h
  have hstem : source.link.stemAndExtension = t.link.stemAndExtension := by
    unfold LinkPath.stemAndExtension
    rw [hparts]
  have hfile : source.link.fileName = t.link.fileName := h
  unfold SourceRef.baseName LinkPath.stem
  rw [hstem, hfile]

/-! ## Layers that look alike -/

/-- Two layers are both markers or neither; markers have one name and one line. -/
structure Layer.LooksLike (l l' : Layer) : Prop where
  marker : l.marker?.isSome = l'.marker?.isSome
  name : l.marker?.isSome = true → l.name = l'.name
  line : l.marker?.isSome = true → l.line? = l'.line?

namespace Layer

theorem LooksLike.trans (h : l.LooksLike l₁) (h' : l₁.LooksLike l') : l.LooksLike l' where
  marker := h.marker.trans h'.marker
  name hm := (h.name hm).trans (h'.name (h.marker ▸ hm))
  line hm := (h.line hm).trans (h'.line (h.marker ▸ hm))

theorem LooksLike.symm (h : l.LooksLike l') : l'.LooksLike l where
  marker := h.marker.symm
  name hm := (h.name (h.marker ▸ hm)).symm
  line hm := (h.line (h.marker ▸ hm)).symm

theorem looksLike_stamp (g : LinkGraph) (l : Layer) : (g.stamp l).LooksLike l := by
  cases l <;> exact ⟨rfl, fun _ => rfl, fun _ => rfl⟩

/-- A layer with other tags. -/
def withTags (tags : List String) (l : Layer) : Layer :=
  l.mapInfo fun i => { i with tags }

theorem looksLike_withTags (tags : List String) (l : Layer) : (l.withTags tags).LooksLike l := by
  cases l <;> exact ⟨rfl, fun _ => rfl, fun _ => rfl⟩

@[simp] theorem source?_withTags (tags : List String) (l : Layer) :
    (l.withTags tags).source? = l.source? := by
  cases l <;> rfl

theorem tags_withTags {source : SourceRef} (tags : List String) (h : l.source? = some source) :
    (l.withTags tags).tags = tags := by
  cases l with
  | marker m => rfl
  | geometry g => rfl
  | floatingMarker m => cases h
  | floatingGeometry g => cases h

/-- Layers with the same content look alike. -/
theorem looksLike_of_sameContent (h : l.sameContent false l' = true) : l.LooksLike l' := by
  cases l with
  | marker m =>
    cases l' with
    | marker m' =>
      simp only [sameContent, Marker.sameContent, LayerInfo.samePosition, Bool.and_eq_true,
        beq_iff_eq] at h
      obtain ⟨⟨⟨⟨⟨⟨hname, -⟩, hline⟩, -⟩, hdisplay⟩, -⟩, -⟩ := h
      have hbase := SourceRef.baseName_congr hname
      refine ⟨rfl, fun _ => ?_, fun _ => hline⟩
      show (m.info.displayName.or (some m.info.source.baseName)).getD "" =
        (m'.info.displayName.or (some m'.info.source.baseName)).getD ""
      rw [hdisplay, hbase]
    | _ => cases h
  | geometry g =>
    cases l' with
    | geometry g' => exact ⟨rfl, fun hm => absurd hm Bool.false_ne_true,
        fun hm => absurd hm Bool.false_ne_true⟩
    | _ => cases h
  | floatingMarker m => cases l' <;> cases h
  | floatingGeometry g => cases l' <;> cases h

end Layer

/-! ## Predicates and queries -/

namespace Query

theorem Predicate.holds_of_marker?_eq_none (h : l.marker?.isSome = false) :
    p.holds notes l = false := by
  cases l with
  | marker m => cases h
  | _ => rfl

theorem Predicate.holds_congr_of_looksLike (h : l.LooksLike l')
    (htags : p.asksTags = true → l.tags = l'.tags)
    (hnote : p.asksNote = true → l.source? = l'.source?) :
    p.holds notes l = p.holds notes l' := by
  cases hm : l.marker?.isSome with
  | false =>
    rw [holds_of_marker?_eq_none hm, holds_of_marker?_eq_none (h.marker ▸ hm)]
  | true =>
    obtain ⟨m, hl⟩ := Option.isSome_iff_exists.1 hm
    obtain ⟨m', hl'⟩ := Option.isSome_iff_exists.1 (h.marker.symm.trans hm)
    cases l <;> cases hl
    cases l' <;> cases hl'
    have hsource : p.asksNote = true → m.info.source = m'.info.source := fun hp =>
      Option.some.inj (hnote hp)
    have hline : m.info.line = m'.info.line := h.line rfl
    cases p with
    | tag pattern =>
      have := htags rfl
      simp only [Layer.tags] at this
      simp only [holds, this]
    | name text => simp only [holds, h.name rfl]
    | path text => simp only [holds, hsource rfl]
    | linkedTo path => simp only [holds, hsource rfl]
    | linkedFrom path => simp only [holds, hsource rfl]
    | lines first last => simp only [holds, hline]

/-- A query tells layers that look alike apart only if it asks for tags or for the note. -/
theorem isMatch_congr_of_looksLike (h : l.LooksLike l')
    (htags : q.Asks Predicate.asksTags → l.tags = l'.tags)
    (hnote : q.Asks Predicate.asksNote → l.source? = l'.source?) :
    q.isMatch notes l = q.isMatch notes l' := by
  unfold isMatch
  rw [run_congr fun p hp => Predicate.holds_congr_of_looksLike h
    (fun ht => htags ⟨p, mem_predicates_of_mem_steps hp, ht⟩)
    fun hn => hnote ⟨p, mem_predicates_of_mem_steps hp, hn⟩]

end Query

end Gazetteer
