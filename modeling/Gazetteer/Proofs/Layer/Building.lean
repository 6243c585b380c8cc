import Gazetteer.Indexer.Basic
import Mathlib.Data.List.Basic

/-!
# What the layers of a file depend on

The layers of a file come from that file (`source?_of_mem_buildIndexed`), and what they are depends
on nothing but what reading the file gives (`buildIndexed_congr`), unless a display rule asks about
links between notes.
-/

namespace Gazetteer

variable {notes notes' : Notes} {l : Layer} {source : SourceRef}

/-! ## Queries that do not ask about links -/

namespace Query

/-- Whether a predicate asks about links between notes. -/
def Predicate.asksLinks : Predicate → Bool
  | .linkedTo _ | .linkedFrom _ => true
  | _ => false

/-- Whether a step asks about links between notes. -/
def Step.asksLinks : Step → Bool
  | .test p => p.asksLinks
  | .apply _ => false

/-- Whether a query asks about links between notes. -/
def asksLinks (q : Query) : Bool :=
  q.steps.any Step.asksLinks

theorem Predicate.holds_congr {p : Predicate} (h : p.asksLinks = false) (notes notes' : Notes)
    (l : Layer) : p.holds notes l = p.holds notes' l := by
  cases p with
  | linkedTo path => cases h
  | linkedFrom path => cases h
  | _ => rfl

theorem run_congr {value value' : Predicate → Bool} {steps : List Step}
    (h : ∀ p, .test p ∈ steps → value p = value' p) (stack : List Bool) :
    run value steps stack = run value' steps stack := by
  unfold run
  induction steps generalizing stack with
  | nil => rfl
  | cons step steps ih =>
    have hstep : Step.run value stack step = Step.run value' stack step := by
      cases step with
      | test p =>
        simp only [Step.run, h p List.mem_cons_self]
      | apply op => cases op <;> rfl
    rw [List.foldlM_cons, List.foldlM_cons, hstep]
    congr 1
    funext stack'
    exact ih (fun p hp => h p (List.mem_cons_of_mem _ hp)) stack'

theorem isMatch_congr {q : Query} (h : q.asksLinks = false) (notes notes' : Notes) (l : Layer) :
    q.isMatch notes l = q.isMatch notes' l := by
  have hsteps : ∀ p, .test p ∈ q.steps → p.holds notes l = p.holds notes' l := fun p hp => by
    have hp' : ¬p.asksLinks = true := List.any_eq_false.1 h _ hp
    exact Predicate.holds_congr (Bool.not_eq_true _ ▸ hp') notes notes' l
  unfold isMatch
  rw [run_congr hsteps]

end Query

/-- Whether some display rule asks about links between notes. -/
def DisplayRules.askLinks (rs : DisplayRules) : Bool :=
  rs.rules.any fun r => r.query.asksLinks

theorem DisplayRules.stylingFor_congr {rs : DisplayRules} (h : rs.askLinks = false)
    (notes notes' : Notes) (l : Layer) : rs.stylingFor notes l = rs.stylingFor notes' l := by
  have hrules : rs.rulesFor notes l = rs.rulesFor notes' l := by
    unfold rulesFor
    congr 1
    refine List.filter_congr fun r hr => ?_
    have hr' : r.query.asksLinks = false := by simpa using List.any_eq_false.1 h r hr
    rw [Query.isMatch_congr hr' notes notes']
  unfold stylingFor
  rw [hrules]

/-! ## Layers of a file -/

theorem Notes.outline?_congr (h : notes.read source = notes'.read source) :
    notes.outline? source = notes'.outline? source := by
  unfold outline? note?
  rw [h]

theorem Notes.tags_congr (h : notes.read source = notes'.read source) :
    notes.tags source = notes'.tags source := by
  unfold tags note?
  rw [h]

namespace Layer

theorem style_congr {rs : DisplayRules} (h : rs.askLinks = false) (notes notes' : Notes)
    (l : Layer) : l.style (some rs) notes = l.style (some rs) notes' := by
  simp only [style, rs.stylingFor_congr h notes notes']

@[simp] theorem info?_style (rules : Option DisplayRules) (notes : Notes) (l : Layer) :
    (l.style rules notes).info? = l.info? := by
  unfold style
  cases rules with
  | none => rfl
  | some rs => cases l <;> rfl

@[simp] theorem source?_style (rules : Option DisplayRules) (notes : Notes) (l : Layer) :
    (l.style rules notes).source? = l.source? := by
  unfold source?
  rw [info?_style]

@[simp] theorem id_style (rules : Option DisplayRules) (notes : Notes) (l : Layer) :
    (l.style rules notes).id = l.id := by
  unfold id
  rw [info?_style]

theorem source_of_infoOf {outline : Option Outline} {text : List Char} {fileTags : List String}
    {f : Fact} {i : LayerInfo} (h : infoOf source outline text fileTags f = some i) :
    i.source = source := by
  unfold infoOf at h
  simp only at h
  split at h
  · cases h
    rfl
  · obtain ⟨parts, -, rfl⟩ := Option.map_eq_some_iff.1 h
    rfl

theorem source?_of_mem_ofFacts {rules : Option DisplayRules} {text : List Char}
    {facts : List Fact} {fileTags : List String}
    (h : l ∈ ofFacts notes rules source text facts fileTags) : l.source? = some source := by
  obtain ⟨f, -, hf⟩ := List.mem_filterMap.1 h
  obtain ⟨i, hi, rfl⟩ := Option.map_eq_some_iff.1 hf
  rw [source?_style, ← source_of_infoOf hi]
  cases f.payload <;> rfl

theorem ofFacts_congr {rs : DisplayRules} (hrs : rs.askLinks = false)
    (h : notes.read source = notes'.read source) (text : List Char) (facts : List Fact)
    (fileTags : List String) :
    ofFacts notes (some rs) source text facts fileTags =
      ofFacts notes' (some rs) source text facts fileTags := by
  unfold ofFacts
  rw [Notes.outline?_congr h]
  refine List.filterMap_congr fun f _ => ?_
  simp only [style_congr hrs notes notes']

theorem ofSource_congr {key : String} {rs : DisplayRules} (hrs : rs.askLinks = false)
    (h : notes.read source = notes'.read source) :
    ofSource notes ⟨key, some rs⟩ source = ofSource notes' ⟨key, some rs⟩ source := by
  unfold ofSource
  rw [h]
  simp only [ofFacts_congr hrs h]

theorem source?_of_mem_ofSource {s : LayerSettings} {ls : List Layer} {ds : List DroppedFact}
    (h : ofSource notes s source = .ok (ls, ds)) (hl : l ∈ ls) : l.source? = some source := by
  obtain ⟨note, -, hnote⟩ := exists_of_bind_eq_ok h
  cases hnote
  exact source?_of_mem_ofFacts hl

theorem source?_ofTrack (notes : Notes) (rules : Option DisplayRules) (source : SourceRef)
    (geometry : GeoDocument) (format : SourceFormat) :
    (ofTrack notes rules source geometry format).source? = some source := by
  unfold ofTrack
  rw [source?_style]
  rfl

theorem ofTrack_congr {rs : DisplayRules} (hrs : rs.askLinks = false)
    (h : notes.read source = notes'.read source) (geometry : GeoDocument) (format : SourceFormat) :
    ofTrack notes (some rs) source geometry format =
      ofTrack notes' (some rs) source geometry format := by
  unfold ofTrack
  rw [Notes.tags_congr h, style_congr hrs notes notes']

end Layer

namespace Indexer

variable {x : Indexer} {ls : List Layer} {ds : List DroppedFact}

theorem source?_of_mem_build (h : x.build notes source = .ok (ls, ds)) (hl : l ∈ ls) :
    l.source? = some source := by
  unfold build at h
  split at h
  · obtain ⟨text, -, htext⟩ := exists_of_bind_eq_ok h
    obtain ⟨geometry, -, hgeometry⟩ := exists_of_bind_eq_ok htext
    cases hgeometry
    rw [List.mem_singleton.1 hl, Layer.source?_ofTrack]
  · cases h
    cases hl
  · exact Layer.source?_of_mem_ofSource h hl

/-- The layers of a file come from that file. -/
theorem source?_of_mem_buildIndexed (h : x.buildIndexed notes source = .ok (ls, ds))
    (hl : l ∈ ls) : l.source? = some source := by
  unfold buildIndexed at h
  split at h
  · exact source?_of_mem_build h hl
  · cases h
    cases hl

/-- So do those of a file that was read again. -/
theorem source?_of_mem_rebuild (h : x.rebuild notes source = .ok (ls, ds)) (hl : l ∈ ls) :
    l.source? = some source := by
  unfold rebuild at h
  split at h
  · cases h
    cases hl
  · exact source?_of_mem_buildIndexed h hl

/-- Only a file that can be read has layers. -/
theorem exists_read_of_mem_build (h : x.build notes source = .ok (ls, ds)) (hl : l ∈ ls) :
    ∃ note, notes.read source = .ok note := by
  unfold build at h
  split at h
  · obtain ⟨text, htext, -⟩ := exists_of_bind_eq_ok h
    unfold Notes.text at htext
    cases hr : notes.read source with
    | error e =>
      rw [hr] at htext
      cases htext
    | ok note => exact ⟨note, rfl⟩
  · cases h
    cases hl
  · obtain ⟨note, hr, -⟩ := exists_of_bind_eq_ok h
    exact ⟨note, hr⟩

theorem exists_read_of_mem_buildIndexed (h : x.buildIndexed notes source = .ok (ls, ds))
    (hl : l ∈ ls) : ∃ note, notes.read source = .ok note := by
  unfold buildIndexed at h
  split at h
  · exact exists_read_of_mem_build h hl
  · cases h
    cases hl

/-- What the layers of a file are depends on what reading the file gives. -/
theorem buildIndexed_congr (hrs : x.rules.askLinks = false)
    (h : notes.read source = notes'.read source) :
    x.buildIndexed notes source = x.buildIndexed notes' source := by
  have hbuild : x.build notes source = x.build notes' source := by
    unfold build
    split
    · unfold Notes.text
      rw [h]
      simp only [Layer.ofTrack_congr hrs h]
    · rfl
    · exact Layer.ofSource_congr hrs h
  unfold buildIndexed
  rw [hbuild]

/-! ## Indexers with the same settings -/

variable {y : Indexer}

theorem buildIndexed_congr_settings (hc : x.config = y.config) (hr : x.rules = y.rules)
    (notes : Notes) (source : SourceRef) :
    x.buildIndexed notes source = y.buildIndexed notes source := by
  have hbuild : x.build notes source = y.build notes source := by
    unfold build settings
    rw [hc, hr]
  unfold buildIndexed
  rw [hbuild, hc]

theorem rebuild_congr_settings (hc : x.config = y.config) (hr : x.rules = y.rules)
    (notes : Notes) (source : SourceRef) : x.rebuild notes source = y.rebuild notes source := by
  unfold rebuild
  rw [buildIndexed_congr_settings hc hr]

theorem buildAll_congr_settings (hc : x.config = y.config) (hr : x.rules = y.rules)
    (notes : Notes) : x.buildAll notes = y.buildAll notes := by
  unfold buildAll
  simp only [buildIndexed_congr_settings hc hr]

theorem layersIn_congr_settings (hc : x.config = y.config) (hr : x.rules = y.rules)
    (notes : Notes) : x.layersIn notes = y.layersIn notes := by
  unfold layersIn
  rw [buildAll_congr_settings hc hr]

theorem layersIn_advance (x : Indexer) (notes : Notes) :
    x.advance.layersIn notes = x.layersIn notes :=
  layersIn_congr_settings (x := x.advance) (y := x) rfl rfl notes

end Indexer

end Gazetteer
