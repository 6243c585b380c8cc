import Gazetteer.Geometry.Reading

/-!
# The positions of a geometry document

What it means that a position stands somewhere in a document (`GeoDocument.Has`), by the forms of
geometries, which may be nested. The list `GeoDocument.positions`, which the check walks along,
holds exactly these positions, so a document that was read has no position that is not a place on
earth.
-/

namespace Gazetteer

/-- A position stands somewhere in a geometry. -/
inductive Geometry.Has : Geometry → Position → Prop
  | point {p : Position} : (point p).Has p
  | multiPoint {p : Position} {ps : List Position} (h : p ∈ ps) : (multiPoint ps).Has p
  | lineString {p : Position} {ps : List Position} (h : p ∈ ps) : (lineString ps).Has p
  | multiLineString {p : Position} {ls : List (List Position)} {l : List Position} (hl : l ∈ ls)
      (h : p ∈ l) : (multiLineString ls).Has p
  | polygon {p : Position} {rings : List (List Position)} {ring : List Position}
      (hring : ring ∈ rings) (h : p ∈ ring) : (polygon rings).Has p
  | multiPolygon {p : Position} {as : List (List (List Position))} {rings : List (List Position)}
      {ring : List Position} (hrings : rings ∈ as) (hring : ring ∈ rings) (h : p ∈ ring) :
      (multiPolygon as).Has p
  | collection {p : Position} {gs : List Geometry} {g : Geometry} (hg : g ∈ gs) (h : g.Has p) :
      (collection gs).Has p

/-- A position stands somewhere in a document. -/
inductive GeoDocument.Has : GeoDocument → Position → Prop
  | geometry {p : Position} {g : Geometry} (h : g.Has p) : (geometry g).Has p
  | feature {p : Position} {f : Feature} {g : Geometry} (hg : f.geometry = some g) (h : g.Has p) :
      (feature f).Has p
  | featureCollection {p : Position} {fs : List Feature} {f : Feature} {g : Geometry} (hf : f ∈ fs)
      (hg : f.geometry = some g) (h : g.Has p) : (featureCollection fs).Has p

/-- A position names a place on earth. -/
def Position.IsPlace (p : Position) : Prop :=
  ∃ lng lat rest, p = lng :: lat :: rest ∧ LatLng.IsPlace ⟨lat, lng⟩

variable {p : Position}

/-! ## Walking along -/

namespace Geometry

theorem mem_positionsOfAll_iff {gs : List Geometry} :
    p ∈ positionsOfAll gs ↔ ∃ g ∈ gs, p ∈ positions g := by
  induction gs with
  | nil => simp [positionsOfAll]
  | cons g gs ih => simp [positionsOfAll, ih]

theorem Has.mem_positions {g : Geometry} (h : g.Has p) : p ∈ g.positions := by
  induction h with
  | point => simp [positions]
  | multiPoint h => simpa [positions] using h
  | lineString h => simpa [positions] using h
  | multiLineString hl h => exact List.mem_flatten_of_mem hl h
  | polygon hring h => exact List.mem_flatten_of_mem hring h
  | multiPolygon hrings hring h =>
    exact List.mem_flatten_of_mem (List.mem_flatten_of_mem hrings hring) h
  | collection hg h ih =>
    unfold positions
    exact mem_positionsOfAll_iff.2 ⟨_, hg, ih⟩

mutual

theorem has_of_mem_positions (g : Geometry) (h : p ∈ g.positions) : g.Has p := by
  cases g with
  | point q =>
    simp only [positions, List.mem_singleton] at h
    exact h ▸ .point
  | multiPoint ps => exact .multiPoint (by simpa only [positions] using h)
  | lineString ps => exact .lineString (by simpa only [positions] using h)
  | multiLineString ls =>
    simp only [positions] at h
    obtain ⟨l, hl, hp⟩ := List.mem_flatten.1 h
    exact .multiLineString hl hp
  | polygon rings =>
    simp only [positions] at h
    obtain ⟨ring, hring, hp⟩ := List.mem_flatten.1 h
    exact .polygon hring hp
  | multiPolygon as =>
    simp only [positions] at h
    obtain ⟨ring, hring, hp⟩ := List.mem_flatten.1 h
    obtain ⟨rings, hrings, hring⟩ := List.mem_flatten.1 hring
    exact .multiPolygon hrings hring hp
  | collection gs =>
    simp only [positions] at h
    obtain ⟨g, hg, hp⟩ := has_of_mem_positionsOfAll gs h
    exact .collection hg hp

theorem has_of_mem_positionsOfAll (gs : List Geometry) (h : p ∈ positionsOfAll gs) :
    ∃ g ∈ gs, g.Has p := by
  cases gs with
  | nil => simp [positionsOfAll] at h
  | cons g gs =>
    simp only [positionsOfAll, List.mem_append] at h
    rcases h with h | h
    · exact ⟨g, List.mem_cons_self, has_of_mem_positions g h⟩
    · obtain ⟨g', hg', hp⟩ := has_of_mem_positionsOfAll gs h
      exact ⟨g', List.mem_cons_of_mem _ hg', hp⟩

end

theorem mem_positions_iff {g : Geometry} : p ∈ g.positions ↔ g.Has p :=
  ⟨has_of_mem_positions g, Has.mem_positions⟩

end Geometry

namespace GeoDocument

variable {d : GeoDocument}

theorem has_iff : d.Has p ↔ ∃ g ∈ d.geometries, g.Has p := by
  constructor
  · rintro (h | ⟨hg, h⟩ | ⟨hf, hg, h⟩)
    · exact ⟨_, List.mem_singleton_self _, h⟩
    · exact ⟨_, Option.mem_toList.2 hg, h⟩
    · exact ⟨_, List.mem_filterMap.2 ⟨_, hf, hg⟩, h⟩
  · rintro ⟨g, hg, h⟩
    cases d with
    | geometry g' => exact .geometry (List.mem_singleton.1 hg ▸ h)
    | feature f => exact .feature (Option.mem_toList.1 hg) h
    | featureCollection fs =>
      obtain ⟨f, hf, hfg⟩ := List.mem_filterMap.1 hg
      exact .featureCollection hf hfg h

theorem mem_positions_iff : p ∈ d.positions ↔ d.Has p := by
  unfold positions
  rw [Geometry.mem_positionsOfAll_iff, has_iff]
  simp only [Geometry.mem_positions_iff]

/-! ## Checking -/

theorem checkPosition_eq_ok_iff : checkPosition p = .ok () ↔ p.IsPlace := by
  match p with
  | [] | [_] => simp [checkPosition, placeOf, Position.IsPlace]
  | lng :: lat :: rest =>
    have hplace : Position.IsPlace (lng :: lat :: rest) ↔ LatLng.IsPlace ⟨lat, lng⟩ := by
      constructor
      · rintro ⟨_, _, _, heq, h⟩
        cases heq
        exact h
      · exact fun h => ⟨lng, lat, rest, rfl, h⟩
    rw [hplace]
    simp only [checkPosition, placeOf]
    cases hc : LatLng.check ⟨lat, lng⟩ with
    | ok q => simpa using (LatLng.check_eq_ok_iff.1 hc).2
    | error fault =>
      have hno : ¬LatLng.IsPlace ⟨lat, lng⟩ := fun h => by
        rw [LatLng.check_eq_ok_iff.2 ⟨rfl, h⟩] at hc
        cases hc
      simpa using hno

/-- The check accepts the documents all of whose positions, however deep they stand, are places on
earth. -/
theorem check_eq_ok_iff : d.check = .ok () ↔ ∀ p, d.Has p → p.IsPlace := by
  unfold check
  simp only [forM_eq_ok_iff, checkPosition_eq_ok_iff, mem_positions_iff]

/-- A document that was read has no other positions. -/
theorem isPlace_of_read {text : String} (h : read text = .ok d) (hp : d.Has p) : p.IsPlace := by
  unfold read at h
  cases hj : Json.read text with
  | none =>
    rw [hj] at h
    cases h
  | some j =>
    rw [hj] at h
    obtain ⟨d', -, hd⟩ := exists_of_bind_eq_ok h
    obtain ⟨⟨⟩, hcheck, heq⟩ := exists_of_bind_eq_ok hd
    cases heq
    exact check_eq_ok_iff.1 hcheck p hp

end GeoDocument

end Gazetteer
