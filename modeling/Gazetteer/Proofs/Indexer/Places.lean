import Gazetteer.Proofs.Geometry.Positions
import Gazetteer.Proofs.Indexer.Invariant
import Gazetteer.Proofs.Note.Facts

/-!
# Everything indexed is on earth

A place comes into a note as inline code, as a link, as a position of a geometry block or in one of
the forms that its front matter may have, and a track file holds positions too. Each of these ways
ends with a check, so whatever a layer is made of is on earth (`Layer.Placed`), and no later step
changes it: that makes it an invariant of sessions.
-/

namespace Gazetteer

variable {p : LatLng} {f : Fact} {l : Layer}

/-! ## Readers -/

namespace LatLng

theorem isPlace_of_check {q : LatLng} (h : q.check = .ok p) : p.IsPlace := by
  obtain ⟨rfl, hp⟩ := check_eq_ok_iff.1 h
  exact hp

theorem isPlace_of_read {lat lng : List Char} (h : read lat lng = .ok p) : p.IsPlace := by
  obtain ⟨x, -, h⟩ := exists_of_bind_eq_ok h
  obtain ⟨y, -, h⟩ := exists_of_bind_eq_ok h
  exact isPlace_of_check h

theorem isPlace_of_readText {s : String} (h : readText s = .ok p) : p.IsPlace := by
  unfold readText at h
  split at h
  · exact isPlace_of_read h
  · cases h

/-- All forms of a front matter value: two numbers, a list with a text and a text. -/
theorem isPlace_of_ofValue {value : Json} (h : ofValue value = .ok p) : p.IsPlace := by
  unfold ofValue at h
  split at h
  · split at h
    · exact isPlace_of_check h
    · cases h
  · exact isPlace_of_readText h
  · exact isPlace_of_readText h
  · cases h

theorem isPlace_of_ofFrontMatter {frontMatter : Json} {key : String}
    (h : ofFrontMatter frontMatter key = some p) : p.IsPlace := by
  obtain ⟨value, -, hv⟩ := Option.bind_eq_some_iff.1 h
  cases hp : ofValue value with
  | error fault =>
    rw [hp] at hv
    cases hv
  | ok q =>
    rw [hp] at hv
    cases hv
    exact isPlace_of_ofValue hp

end LatLng

/-! ## Facts -/

/-- A payload is a place on earth or has no position that is not. -/
def Payload.Placed : Payload → Prop
  | .place p => p.IsPlace
  | .geometry d => ∀ p, d.Has p → p.IsPlace

namespace Extraction

variable {payload : Payload} {m : Pattern.Match}

theorem Holds.placed {kind : FactKind} {name : Option String} (h : Holds m kind payload name) :
    payload.Placed := by
  cases h with
  | place _ hp => exact LatLng.isPlace_of_read hp
  | geometry hd => exact fun p => GeoDocument.isPlace_of_read hd

theorem placed_of_mem_ofNote {text : List Char} {frontMatter : Option Json} {key : String}
    (h : f ∈ (ofNote text frontMatter key).facts) : f.payload.Placed := by
  rcases mem_facts_ofNote_iff.1 h with ⟨kind, m, -, hm⟩ | hfront
  · exact (readFrom_of_found hm).holds.placed
  · rcases ofFrontMatter_cases frontMatter key with ⟨-, hnone⟩ | ⟨p, hp, hsome⟩
    · rw [hnone] at hfront
      cases hfront
    · rw [hsome] at hfront
      obtain ⟨properties, -, hread⟩ := Option.bind_eq_some_iff.1 hp
      rw [List.mem_singleton.1 hfront]
      exact LatLng.isPlace_of_ofFrontMatter hread

end Extraction

/-! ## Layers -/

namespace Layer

/-- A layer shows a place on earth or has no position that is not. -/
def Placed : Layer → Prop
  | .marker m => m.location.IsPlace
  | .geometry g => ∀ p, g.geometry.Has p → p.IsPlace
  | .floatingMarker m => m.location.IsPlace
  | .floatingGeometry g => ∀ p, g.geometry.Has p → p.IsPlace

theorem placed_style_iff (rules : Option DisplayRules) (notes : Notes) (l : Layer) :
    (l.style rules notes).Placed ↔ l.Placed := by
  unfold style
  cases rules with
  | none => exact Iff.rfl
  | some rs => cases l <;> exact Iff.rfl

theorem placed_ofPayload_iff {i : LayerInfo} {payload : Payload} :
    (ofPayload i payload).Placed ↔ payload.Placed := by
  cases payload <;> exact Iff.rfl

theorem lasting_placed : Lasting Placed := by
  intro g l h
  cases l <;> exact h

theorem placed_of_mem_ofSource {notes : Notes} {s : LayerSettings} {source : SourceRef}
    {ls : List Layer} {ds : List DroppedFact} (h : ofSource notes s source = .ok (ls, ds))
    (hl : l ∈ ls) : l.Placed := by
  obtain ⟨note, -, hnote⟩ := exists_of_bind_eq_ok h
  cases hnote
  obtain ⟨f, hf, hlayer⟩ := List.mem_filterMap.1 hl
  obtain ⟨i, -, rfl⟩ := Option.map_eq_some_iff.1 hlayer
  rw [placed_style_iff, placed_ofPayload_iff]
  exact Extraction.placed_of_mem_ofNote hf

end Layer

theorem Indexer.placed_of_mem_build {x : Indexer} {notes : Notes} {source : SourceRef}
    {ls : List Layer} {ds : List DroppedFact} (h : x.build notes source = .ok (ls, ds))
    (hl : l ∈ ls) : l.Placed := by
  unfold build at h
  split at h
  · obtain ⟨text, -, htext⟩ := exists_of_bind_eq_ok h
    obtain ⟨d, hd, hlayers⟩ := exists_of_bind_eq_ok htext
    cases hlayers
    rw [List.mem_singleton.1 hl, Layer.ofTrack, Layer.placed_style_iff]
    cases hread : GeoDocument.read text with
    | error fault =>
      rw [hread] at hd
      cases hd
    | ok d' =>
      rw [hread] at hd
      cases hd
      exact fun p => GeoDocument.isPlace_of_read hread
  · cases h
    cases hl
  · exact Layer.placed_of_mem_ofSource h hl

theorem Notes.yield_placed (notes : Notes) : notes.Yield Layer.Placed := by
  intro x source ls ds h l hl
  unfold Indexer.buildIndexed at h
  split at h
  · exact Indexer.placed_of_mem_build h hl
  · cases h
    cases hl

/-! ## Sessions -/

namespace Session

variable {s : Session}

/-- **Whatever is indexed is on earth.** Whatever the notes say, in whichever way, and whatever was
prepared, applied and edited: every indexed place passes the check, and so does, with its second
number as latitude and its first as longitude, every position of every indexed geometry, however
deep it stands. -/
theorem indexed_on_earth (h : s.Reachable) :
    (∀ m, .marker m ∈ s.indexer.index.layers →
        m.location.check = .ok m.location ∧ m.location.IsPlace) ∧
      ∀ g, .geometry g ∈ s.indexer.index.layers → ∀ p, g.geometry.Has p →
        ∃ lng lat rest, p = lng :: lat :: rest ∧
          LatLng.check ⟨lat, lng⟩ = .ok ⟨lat, lng⟩ ∧ LatLng.IsPlace ⟨lat, lng⟩ := by
  have hwf := h.consistent.counted.wf
  have hplaced : ∀ l ∈ s.indexer.index.layers, l.Placed := fun l hl =>
    (h.all Layer.lasting_placed Notes.yield_placed).index _ l (hwf.mem_layers.1 hl)
  constructor
  · intro m hm
    have hplace : m.location.IsPlace := hplaced _ hm
    exact ⟨LatLng.check_eq_ok_iff.2 ⟨rfl, hplace⟩, hplace⟩
  · intro g hg p hp
    obtain ⟨lng, lat, rest, rfl, hplace⟩ := hplaced _ hg p hp
    exact ⟨lng, lat, rest, rfl, LatLng.check_eq_ok_iff.2 ⟨rfl, hplace⟩, hplace⟩

/-- A note with a place, and a track file that holds a collection with an area in it. -/
theorem indexed_on_earth_of_collection :
    ∃ s : Session, s.Reachable ∧
      s.indexer.index.layers.map Layer.kind = [.pointMarker, .geometry] ∧
      (∀ m, .marker m ∈ s.indexer.index.layers →
        m.location.check = .ok m.location ∧ m.location.IsPlace) ∧
      ∀ g, .geometry g ∈ s.indexer.index.layers → ∀ p, g.geometry.Has p →
        ∃ lng lat rest, p = lng :: lat :: rest ∧
          LatLng.check ⟨lat, lng⟩ = .ok ⟨lat, lng⟩ ∧ LatLng.IsPlace ⟨lat, lng⟩ := by
  let config : Config := { extensions := ["md", "geojson"], displayRules := [] }
  let store := NoteStore.ofList
    [("A.md", "[x](geo:5,6)"),
      ("T.geojson",
        "\x7b\"type\":\"GeometryCollection\",\"geometries\":[[\"MultiPolygon\",[[[[8,7]]]]]]\x7d")]
  have hkinds : (Indexer.new config).toOption.any (fun x =>
      ((start x store.notes).run [.prepare .full, .apply 0]).indexer.index.layers.map Layer.kind ==
        [.pointMarker, .geometry]) = true := by
    decide +kernel
  obtain ⟨x, hx, hkinds⟩ := exists_of_any_toOption hkinds
  have hreach := (Reachable.start hx store.notes).run [.prepare .full, .apply 0]
  exact ⟨_, hreach, beq_iff_eq.1 hkinds, indexed_on_earth hreach⟩

end Session

end Gazetteer
