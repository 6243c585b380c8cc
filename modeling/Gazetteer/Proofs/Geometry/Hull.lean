import Gazetteer.Index.Basic
import Gazetteer.Proofs.Indexer.Places
import Gazetteer.Proofs.Number.Exact

/-!
# The smallest box

Sides of boxes are compared as exact numbers. A box is the hull of some boxes if each of its sides
is the outermost one of theirs (`Bounds.IsHull`), which says at once that it holds them all and that
none of its sides can be moved in. The union of two boxes is the hull of what they are hulls of, so
the hull of a list is found by uniting one after the other, in any order; a point is a box without
extent. A layer has the box of its point or its document (`Layer.bounds_cases`), which is the hull
of the places it shows, and that of an index is the hull of what all of its layers show
(`LayerIndex.isHull_places`).
-/

namespace Gazetteer

open Number (exact)

namespace Bounds

variable {x y : Float} {a b c : Bounds} {s t : Set Bounds} {bs : List Bounds}

/-- Each side of a box is the outermost one of some boxes. -/
structure IsHull (b : Bounds) (boxes : Set Bounds) : Prop where
  south : IsLeast ((fun a => exact a.south) '' boxes) (exact b.south)
  west : IsLeast ((fun a => exact a.west) '' boxes) (exact b.west)
  north : IsGreatest ((fun a => exact a.north) '' boxes) (exact b.north)
  east : IsGreatest ((fun a => exact a.east) '' boxes) (exact b.east)

/-- The sides of a box as exact numbers: south, west, north and east. -/
def sides (b : Bounds) : ℚ × ℚ × ℚ × ℚ :=
  (exact b.south, exact b.west, exact b.north, exact b.east)

structure IsFinite (b : Bounds) : Prop where
  south : b.south.isFinite = true
  west : b.west.isFinite = true
  north : b.north.isFinite = true
  east : b.east.isFinite = true

/-! ## Choosing a side -/

theorem isFinite_least (hx : x.isFinite = true) (hy : y.isFinite = true) :
    (least x y).isFinite = true := by
  unfold least
  split <;> assumption

theorem isFinite_greatest (hx : x.isFinite = true) (hy : y.isFinite = true) :
    (greatest x y).isFinite = true := by
  unfold greatest
  split <;> assumption

theorem exact_least (hx : x.isFinite = true) (hy : y.isFinite = true) :
    exact (least x y) = min (exact x) (exact y) := by
  unfold least
  split
  · rename_i h
    exact (min_eq_right ((Number.lt_iff_exact_lt hy hx).1 h).le).symm
  · rename_i h
    exact (min_eq_left (not_lt.1 (mt (Number.lt_iff_exact_lt hy hx).2 h))).symm

theorem exact_greatest (hx : x.isFinite = true) (hy : y.isFinite = true) :
    exact (greatest x y) = max (exact x) (exact y) := by
  unfold greatest
  split
  · rename_i h
    exact (max_eq_right ((Number.lt_iff_exact_lt hx hy).1 h).le).symm
  · rename_i h
    exact (max_eq_left (not_lt.1 (mt (Number.lt_iff_exact_lt hx hy).2 h))).symm

/-! ## Hulls -/

theorem IsFinite.union (ha : a.IsFinite) (hb : b.IsFinite) : (a.union b).IsFinite where
  south := isFinite_least ha.south hb.south
  west := isFinite_least ha.west hb.west
  north := isFinite_greatest ha.north hb.north
  east := isFinite_greatest ha.east hb.east

theorem isHull_singleton (b : Bounds) : b.IsHull {b} := by
  constructor <;> rw [Set.image_singleton]
  · exact isLeast_singleton
  · exact isLeast_singleton
  · exact isGreatest_singleton
  · exact isGreatest_singleton

/-- **The union of two boxes is the hull of what they are hulls of.** -/
theorem IsHull.union (ha : a.IsHull s) (hb : b.IsHull t) (hfa : a.IsFinite) (hfb : b.IsFinite) :
    (a.union b).IsHull (s ∪ t) where
  south := by
    rw [Set.image_union, Bounds.union, exact_least hfa.south hfb.south]
    exact ha.south.union hb.south
  west := by
    rw [Set.image_union, Bounds.union, exact_least hfa.west hfb.west]
    exact ha.west.union hb.west
  north := by
    rw [Set.image_union, Bounds.union, exact_greatest hfa.north hfb.north]
    exact ha.north.union hb.north
  east := by
    rw [Set.image_union, Bounds.union, exact_greatest hfa.east hfb.east]
    exact ha.east.union hb.east

/-- A side that is the outermost one of hulls is the outermost one of what they are hulls of. -/
theorem isLeast_of_parts {V : Type} [Preorder V] {f : Bounds → V} {x : V}
    (hside : ∀ {a u}, IsHull a u → IsLeast (f '' u) (f a)) (hparts : ∀ a ∈ t, ∃ u ⊆ s, a.IsHull u)
    (hwhole : ∀ c ∈ s, ∃ a ∈ t, ∃ u, c ∈ u ∧ a.IsHull u) (h : IsLeast (f '' t) x) :
    IsLeast (f '' s) x := by
  constructor
  · obtain ⟨a, ha, rfl⟩ := h.1
    obtain ⟨u, hu, hhull⟩ := hparts a ha
    exact Set.image_mono hu (hside hhull).1
  · rintro _ ⟨c, hc, rfl⟩
    obtain ⟨a, ha, u, hcu, hhull⟩ := hwhole c hc
    exact (h.2 ⟨a, ha, rfl⟩).trans ((hside hhull).2 ⟨c, hcu, rfl⟩)

/-- **The hull of hulls is the hull of what they are hulls of.** -/
theorem IsHull.of_parts (h : b.IsHull t) (hparts : ∀ a ∈ t, ∃ u ⊆ s, a.IsHull u)
    (hwhole : ∀ c ∈ s, ∃ a ∈ t, ∃ u, c ∈ u ∧ a.IsHull u) : b.IsHull s where
  south := isLeast_of_parts IsHull.south hparts hwhole h.south
  west := isLeast_of_parts IsHull.west hparts hwhole h.west
  north := isLeast_of_parts (V := ℚᵒᵈ) IsHull.north hparts hwhole h.north
  east := isLeast_of_parts (V := ℚᵒᵈ) IsHull.east hparts hwhole h.east

/-- Some boxes have one hull. -/
theorem IsHull.sides_eq (ha : a.IsHull s) (hb : b.IsHull s) : a.sides = b.sides := by
  rw [sides, sides, ha.south.unique hb.south, ha.west.unique hb.west, ha.north.unique hb.north,
    ha.east.unique hb.east]

theorem isHull_foldl_union (hb : b.IsHull s) (hfinite : b.IsFinite) (h : ∀ a ∈ bs, a.IsFinite) :
    (bs.foldl Bounds.union b).IsFinite ∧ (bs.foldl Bounds.union b).IsHull (s ∪ {a | a ∈ bs}) := by
  induction bs generalizing b s with
  | nil => simpa using ⟨hfinite, hb⟩
  | cons a bs ih =>
    obtain ⟨ha, hbs⟩ := List.forall_mem_cons.1 h
    have hset : s ∪ {a' | a' ∈ a :: bs} = s ∪ {a} ∪ {a' | a' ∈ bs} := by
      ext a'
      simp only [Set.mem_union, Set.mem_ofPred_eq, List.mem_cons, Set.mem_singleton_iff, or_assoc]
    rw [List.foldl_cons, hset]
    exact ih (hb.union (isHull_singleton a) hfinite ha) (hfinite.union ha) hbs

theorem isHull_unionAll (h : ∀ a ∈ bs, a.IsFinite) (hb : unionAll bs = some b) :
    b.IsFinite ∧ b.IsHull {a | a ∈ bs} := by
  cases bs with
  | nil => cases hb
  | cons a bs =>
    cases hb
    obtain ⟨ha, hbs⟩ := List.forall_mem_cons.1 h
    have hset : {a' | a' ∈ a :: bs} = {a} ∪ {a' | a' ∈ bs} := by
      ext a'
      simp
    rw [hset]
    exact isHull_foldl_union (isHull_singleton a) ha hbs

theorem isSome_unionAll_iff : (unionAll bs).isSome = true ↔ ∃ a, a ∈ bs := by
  cases bs with
  | nil => simp [unionAll]
  | cons a bs => simp [unionAll]

/-- It does not matter in which order boxes are united. -/
theorem sides_unionAll_congr {cs : List Bounds} (h : ∀ a ∈ bs, a.IsFinite)
    (hcs : ∀ a, a ∈ cs ↔ a ∈ bs) : (unionAll cs).map sides = (unionAll bs).map sides := by
  have hset : {a | a ∈ cs} = {a | a ∈ bs} := Set.ext hcs
  have hsome : (unionAll cs).isSome = (unionAll bs).isSome := by
    rw [Bool.eq_iff_iff, isSome_unionAll_iff, isSome_unionAll_iff]
    simp only [hcs]
  cases hb : unionAll bs with
  | none =>
    rw [hb, Option.isSome_none, Option.isSome_eq_false_iff, Option.isNone_iff_eq_none] at hsome
    rw [hsome]
  | some b =>
    rw [hb, Option.isSome_some, Option.isSome_iff_exists] at hsome
    obtain ⟨c, hc⟩ := hsome
    have hhull := (isHull_unionAll (fun a ha => h a ((hcs a).1 ha)) hc).2
    rw [hset] at hhull
    rw [hc, Option.map_some, Option.map_some, hhull.sides_eq (isHull_unionAll h hb).2]

/-- Points are united as boxes without extent. -/
theorem ofPoints_eq_unionAll (ps : List LatLng) : ofPoints ps = unionAll (ps.map ofPoint) := by
  cases ps with
  | nil => rfl
  | cons p ps =>
    rw [ofPoints, List.map_cons, unionAll, List.foldl_map]
    rfl

theorem isFinite_ofPoint {p : LatLng} (h : p.IsPlace) : (ofPoint p).IsFinite :=
  ⟨h.1, h.2.1, h.1, h.2.1⟩

/-- A finite box holds the finite points between its sides. -/
theorem contains_iff {p : LatLng} (hb : b.IsFinite) (hp : (ofPoint p).IsFinite) :
    b.contains p = true ↔
      (exact b.south ≤ exact p.lat ∧ exact p.lat ≤ exact b.north) ∧
        exact b.west ≤ exact p.lng ∧ exact p.lng ≤ exact b.east := by
  have hlat : p.lat.isFinite = true := hp.south
  have hlng : p.lng.isFinite = true := hp.west
  unfold contains
  simp only [Bool.and_eq_true, decide_eq_true_eq]
  rw [Number.le_iff_exact_le hb.south hlat, Number.le_iff_exact_le hlat hb.north,
    Number.le_iff_exact_le hb.west hlng, Number.le_iff_exact_le hlng hb.east, and_assoc]

/-- A hull of points holds them. -/
theorem IsHull.contains {places : Set LatLng} {p : LatLng} (h : b.IsHull (ofPoint '' places))
    (hb : b.IsFinite) (hp : p ∈ places) (hfinite : (ofPoint p).IsFinite) : b.contains p = true := by
  have hmem : ofPoint p ∈ ofPoint '' places := Set.mem_image_of_mem _ hp
  rw [contains_iff hb hfinite]
  exact ⟨⟨h.south.2 ⟨_, hmem, rfl⟩, h.north.2 ⟨_, hmem, rfl⟩⟩,
    h.west.2 ⟨_, hmem, rfl⟩, h.east.2 ⟨_, hmem, rfl⟩⟩

end Bounds

/-! ## Documents -/

namespace GeoDocument

variable {d : GeoDocument} {b : Bounds} {p : LatLng}

/-- The places in a document, of whose positions the first number is the longitude. -/
def places (d : GeoDocument) : Set LatLng :=
  {p | ∃ rest, d.Has (p.lng :: p.lat :: rest)}

theorem mem_places_iff : p ∈ d.places ↔ p ∈ d.positions.filterMap placeOf := by
  simp only [List.mem_filterMap, mem_positions_iff]
  constructor
  · rintro ⟨rest, h⟩
    exact ⟨_, h, rfl⟩
  · rintro ⟨q, h, hq⟩
    match q with
    | lng :: lat :: rest =>
      cases hq
      exact ⟨rest, h⟩

theorem nonempty_places_iff : d.places.Nonempty ↔ d.bounds.isSome = true := by
  rw [bounds, Bounds.ofPoints_eq_unionAll, Bounds.isSome_unionAll_iff]
  simp only [List.mem_map, ← mem_places_iff]
  exact ⟨fun ⟨p, hp⟩ => ⟨_, p, hp, rfl⟩, fun ⟨_, p, hp, _⟩ => ⟨p, hp⟩⟩

variable (h : ∀ q, d.Has q → q.IsPlace)

include h

theorem isPlace_of_mem_places (hp : p ∈ d.places) : p.IsPlace := by
  obtain ⟨rest, hp⟩ := hp
  obtain ⟨lng, lat, rest', heq, hplace⟩ := h _ hp
  cases heq
  exact hplace

theorem isSome_bounds_iff : d.bounds.isSome = true ↔ ∃ q, d.Has q := by
  rw [← nonempty_places_iff]
  constructor
  · rintro ⟨p, rest, hp⟩
    exact ⟨_, hp⟩
  · rintro ⟨q, hq⟩
    obtain ⟨lng, lat, rest, rfl, -⟩ := h q hq
    exact ⟨⟨lat, lng⟩, rest, hq⟩

theorem isHull_bounds (hb : d.bounds = some b) :
    b.IsFinite ∧ b.IsHull (Bounds.ofPoint '' d.places) := by
  rw [bounds, Bounds.ofPoints_eq_unionAll] at hb
  have hset : Bounds.ofPoint '' d.places =
      {a | a ∈ (d.positions.filterMap placeOf).map Bounds.ofPoint} := by
    ext a
    simp only [Set.mem_image, Set.mem_ofPred_eq, List.mem_map, mem_places_iff]
  rw [hset]
  refine Bounds.isHull_unionAll (fun a ha => ?_) hb
  obtain ⟨p, hp, rfl⟩ := List.mem_map.1 ha
  exact Bounds.isFinite_ofPoint (isPlace_of_mem_places h (mem_places_iff.2 hp))

end GeoDocument

/-! ## Layers -/

namespace Layer

variable {l : Layer} {b : Bounds}

/-- The places that a layer shows: the point of a marker, or those in the document of a geometry. -/
def places : Layer → Set LatLng
  | .marker m => {m.location}
  | .floatingMarker m => {m.location}
  | .geometry g => g.geometry.places
  | .floatingGeometry g => g.geometry.places

/-- **The box of a marker is its point, and that of a geometry the box of its document.** -/
theorem bounds_cases (l : Layer) :
    (∃ p, l.places = {p} ∧ l.bounds = some (.ofPoint p) ∧ (l.Placed → p.IsPlace)) ∨
      ∃ d : GeoDocument, l.places = d.places ∧ l.bounds = d.bounds ∧
        (l.Placed → ∀ q, d.Has q → q.IsPlace) := by
  cases l with
  | marker m => exact Or.inl ⟨m.location, rfl, rfl, fun h => h⟩
  | geometry g => exact Or.inr ⟨g.geometry, rfl, rfl, fun h => h⟩
  | floatingMarker m => exact Or.inl ⟨m.location, rfl, rfl, fun h => h⟩
  | floatingGeometry g => exact Or.inr ⟨g.geometry, rfl, rfl, fun h => h⟩

/-- A layer has a box exactly if it shows a place. -/
theorem nonempty_places_iff : l.places.Nonempty ↔ l.bounds.isSome = true := by
  rcases l.bounds_cases with ⟨p, hplaces, hbounds, -⟩ | ⟨d, hplaces, hbounds, -⟩
  · rw [hplaces, hbounds]
    exact iff_of_true (Set.singleton_nonempty p) rfl
  · rw [hplaces, hbounds]
    exact GeoDocument.nonempty_places_iff

/-- **The box of a layer is the hull of the places it shows.** -/
theorem isHull_bounds (h : l.Placed) (hb : l.bounds = some b) :
    b.IsFinite ∧ b.IsHull (Bounds.ofPoint '' l.places) := by
  rcases l.bounds_cases with ⟨p, hplaces, hbounds, hp⟩ | ⟨d, hplaces, hbounds, hd⟩
  · rw [hbounds, Option.some.injEq] at hb
    rw [← hb, hplaces, Set.image_singleton]
    exact ⟨Bounds.isFinite_ofPoint (hp h), Bounds.isHull_singleton _⟩
  · rw [hplaces]
    exact GeoDocument.isHull_bounds (hd h) (hbounds ▸ hb)

end Layer

namespace LayerIndex

section Placed

variable {i : LayerIndex} {b : Bounds} (hplaced : ∀ l ∈ i.layers, l.Placed)

include hplaced

theorem isFinite_of_mem_bounds : ∀ a ∈ i.layers.filterMap Layer.bounds, a.IsFinite := by
  intro a ha
  obtain ⟨l, hl, ha⟩ := List.mem_filterMap.1 ha
  exact (Layer.isHull_bounds (hplaced l hl) ha).1

theorem isHull_bounds (hb : i.bounds = some b) :
    b.IsHull {a | ∃ l ∈ i.layers, l.bounds = some a} := by
  have hhull := (Bounds.isHull_unionAll (isFinite_of_mem_bounds hplaced) hb).2
  simpa only [List.mem_filterMap] using hhull

/-- **The box of an index is the hull of the places that its layers show.** -/
theorem isHull_places (hb : i.bounds = some b) :
    b.IsHull (Bounds.ofPoint '' {p | ∃ l ∈ i.layers, p ∈ l.places}) := by
  refine (isHull_bounds hplaced hb).of_parts ?_ ?_
  · rintro a ⟨l, hl, ha⟩
    exact ⟨_, Set.image_mono fun p hp => ⟨l, hl, hp⟩, (Layer.isHull_bounds (hplaced l hl) ha).2⟩
  · rintro _ ⟨p, ⟨l, hl, hp⟩, rfl⟩
    obtain ⟨a, ha⟩ := Option.isSome_iff_exists.1 (Layer.nonempty_places_iff.1 ⟨p, hp⟩)
    exact ⟨a, ⟨l, hl, ha⟩, _, Set.mem_image_of_mem _ hp, (Layer.isHull_bounds (hplaced l hl) ha).2⟩

end Placed

/-- **Bounds are tight.** A document that was read has bounds exactly if it has a position; they
hold every place in it, however deep it stands, and each side goes through one. The layers of an
index, if all of them are on earth, have bounds exactly if one of them has; these are the smallest
box around theirs, and the same one in whichever order the layers are taken. -/
theorem bounds_tight :
    (∀ text d, GeoDocument.read text = .ok d →
      (d.bounds.isSome = true ↔ ∃ q, d.Has q) ∧
        ∀ b, d.bounds = some b →
          b.IsHull (Bounds.ofPoint '' d.places) ∧ ∀ p ∈ d.places, b.contains p = true) ∧
    ∀ i : LayerIndex, (∀ l ∈ i.layers, l.Placed) →
      (i.bounds.isSome = true ↔ ∃ l ∈ i.layers, l.bounds.isSome = true) ∧
        (∀ b, i.bounds = some b → b.IsHull {a | ∃ l ∈ i.layers, l.bounds = some a}) ∧
        ∀ ls : List Layer, ls.Perm i.layers →
          (Bounds.unionAll (ls.filterMap Layer.bounds)).map Bounds.sides =
            i.bounds.map Bounds.sides := by
  constructor
  · intro text d hread
    have hplace : ∀ q, d.Has q → q.IsPlace := fun q => GeoDocument.isPlace_of_read hread
    refine ⟨GeoDocument.isSome_bounds_iff hplace, fun b hb => ?_⟩
    obtain ⟨hfinite, hhull⟩ := GeoDocument.isHull_bounds hplace hb
    exact ⟨hhull, fun p hp => hhull.contains hfinite hp
      (Bounds.isFinite_ofPoint (GeoDocument.isPlace_of_mem_places hplace hp))⟩
  · intro i hplaced
    refine ⟨?_, fun b hb => isHull_bounds hplaced hb, fun ls hls => ?_⟩
    · rw [bounds, Bounds.isSome_unionAll_iff]
      simp only [List.mem_filterMap, Option.isSome_iff_exists]
      exact ⟨fun ⟨a, l, hl, ha⟩ => ⟨l, hl, a, ha⟩, fun ⟨l, hl, a, ha⟩ => ⟨a, l, hl, ha⟩⟩
    · exact Bounds.sides_unionAll_congr (isFinite_of_mem_bounds hplaced) fun a =>
        (hls.filterMap _).mem_iff

/-- A collection in a collection, and an index of a marker and that document. The north side goes
through the marker, the other ones through positions of the document. -/
theorem bounds_tight_nested :
    ∃ text d, ∃ i : LayerIndex, GeoDocument.read text = .ok d ∧ d.positions.length = 3 ∧
      d.bounds.map Bounds.sides = some (-15 / 2, -3, 1, 8) ∧
      i.layers.map (fun l => l.bounds.map Bounds.sides) =
        [some (9, 2, 9, 2), some (-15 / 2, -3, 1, 8)] ∧
      i.bounds.map Bounds.sides = some (-15 / 2, -3, 9, 8) ∧
      i.size = 2 ∧ (∀ l ∈ i.layers, l.Placed) ∧
      (d.bounds.isSome = true ↔ ∃ q, d.Has q) ∧
      (∀ b, d.bounds = some b →
        b.IsHull (Bounds.ofPoint '' d.places) ∧ ∀ p ∈ d.places, b.contains p = true) ∧
      (i.bounds.isSome = true ↔ ∃ l ∈ i.layers, l.bounds.isSome = true) ∧
      (∀ b, i.bounds = some b → b.IsHull {a | ∃ l ∈ i.layers, l.bounds = some a}) ∧
      ∀ ls : List Layer, ls.Perm i.layers →
        (Bounds.unionAll (ls.filterMap Layer.bounds)).map Bounds.sides =
          i.bounds.map Bounds.sides := by
  let object (type member value : String) : String :=
    "\x7b\"type\":\"" ++ type ++ "\",\"" ++ member ++ "\":" ++ value ++ "\x7d"
  let point := object "Point" "coordinates" "[8,-7.5]"
  let line := object "LineString" "coordinates" "[[0,1,2],[-3,0]]"
  let inner := object "GeometryCollection" "geometries" ("[" ++ line ++ "]")
  let text := object "GeometryCollection" "geometries" ("[" ++ point ++ "," ++ inner ++ "]")
  let layers (d : GeoDocument) : List Layer :=
    [.marker ⟨{ source := ⟨"A.md"⟩, id := "a" }, ⟨9, 2⟩, .empty, 0⟩,
      .geometry ⟨{ source := ⟨"B.md"⟩, id := "b" }, d, .geoJson, .empty⟩]
  have hread : (GeoDocument.read text).toOption.any (fun d =>
      decide (d.positions.length = 3 ∧ d.bounds.map Bounds.sides = some (-15 / 2, -3, 1, 8) ∧
        (layers d).map (fun l => l.bounds.map Bounds.sides) =
          [some (9, 2, 9, 2), some (-15 / 2, -3, 1, 8)] ∧
        (Bounds.unionAll ((layers d).filterMap Layer.bounds)).map Bounds.sides =
          some (-15 / 2, -3, 9, 8))) = true := by
    decide +kernel
  obtain ⟨d, hd, hdecide⟩ := exists_of_any_toOption hread
  obtain ⟨hlength, hdbounds, hlbounds, hibounds⟩ := of_decide_eq_true hdecide
  obtain ⟨i, hsize, hlayers⟩ : ∃ i : LayerIndex, i.size = 2 ∧ i.layers = layers d :=
    ⟨(empty.add (.geometry ⟨{ source := ⟨"B.md"⟩, id := "b" }, d, .geoJson, .empty⟩)).add
      (.marker ⟨{ source := ⟨"A.md"⟩, id := "a" }, ⟨9, 2⟩, .empty, 0⟩), by cbv, by cbv⟩
  rw [← hlayers] at hlbounds hibounds
  have hplaced : ∀ l ∈ i.layers, l.Placed := by
    rw [hlayers]
    refine List.forall_mem_cons.2 ⟨?_, List.forall_mem_singleton.2 ?_⟩
    · show LatLng.IsPlace ⟨9, 2⟩
      decide +kernel
    · exact fun q => GeoDocument.isPlace_of_read hd
  exact ⟨text, d, i, hd, hlength, hdbounds, hlbounds, hibounds, hsize, hplaced,
    (bounds_tight.1 text d hd).1, (bounds_tight.1 text d hd).2, bounds_tight.2 i hplaced⟩

end LayerIndex

end Gazetteer
