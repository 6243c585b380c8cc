import Gazetteer.Proofs.Geometry.Positions

/-!
# Geometry documents, written and read back

JSON has no word for a number that is not finite: such a coordinate is written as null, and null is
no coordinate. So a document comes back as it was where all its coordinates are finite, and not at
all elsewhere (`GeoDocument.ofJson_toJson_eq_ok_iff`). This is a relation between a reader and a
writer (`ReadsBack`) which goes from numbers up to positions, lines, areas, geometries and features.
-/

namespace Gazetteer

/-- All coordinates of a position are finite. -/
def Position.IsFinite (p : Position) : Prop :=
  ∀ x ∈ p, x.isFinite = true

/-- All coordinates of a document are finite. -/
def GeoDocument.IsFinite (d : GeoDocument) : Prop :=
  ∀ p, d.Has p → p.IsFinite

/-! ## Readers and writers -/

/-- What was written is read back if it is good, and is refused otherwise. -/
def ReadsBack {α : Type} (read : Json → Option α) (write : α → Json) (good : α → Prop) : Prop :=
  ∀ a b, read (write a) = some b ↔ good a ∧ b = a

section Readers

variable {α β : Type} {read : Json → Option α} {write : α → Json} {good : α → Prop}

/-- Lists come back whose elements do. -/
theorem mapM_read_eq_some_iff {as : List α}
    (h : ∀ a ∈ as, ∀ b, read (write a) = some b ↔ good a ∧ b = a) (bs : List α) :
    (as.map write).mapM read = some bs ↔ (∀ a ∈ as, good a) ∧ bs = as := by
  induction as generalizing bs with
  | nil => simp [eq_comm]
  | cons a as ih =>
    obtain ⟨ha, has⟩ := List.forall_mem_cons.1 h
    have hbind : ((a :: as).map write).mapM read = some bs ↔
        ∃ a', read (write a) = some a' ∧
          ∃ as', (as.map write).mapM read = some as' ∧ a' :: as' = bs := by
      simp [Option.bind_eq_some_iff]
    rw [hbind]
    constructor
    · rintro ⟨a', ha', as', has', rfl⟩
      obtain ⟨hgood, rfl⟩ := (ha a').1 ha'
      obtain ⟨hall, rfl⟩ := (ih has as').1 has'
      exact ⟨List.forall_mem_cons.2 ⟨hgood, hall⟩, rfl⟩
    · rintro ⟨hall, rfl⟩
      obtain ⟨hgood, hall⟩ := List.forall_mem_cons.1 hall
      exact ⟨a, (ha a).2 ⟨hgood, rfl⟩, as, (ih has as).2 ⟨hall, rfl⟩, rfl⟩

namespace ReadsBack

theorem array (h : ReadsBack read write good) :
    ReadsBack (readArray read) (fun as => .arr (as.map write)) (fun as => ∀ a ∈ as, good a) :=
  fun _ bs => mapM_read_eq_some_iff (fun a _ => h a) bs

/-- Something is built from what was read. -/
theorem map_eq_some_iff (h : ReadsBack read write good) (make : α → β) (a : α) (b : β) :
    (read (write a)).map make = some b ↔ good a ∧ b = make a := by
  rw [Option.map_eq_some_iff]
  constructor
  · rintro ⟨a', ha', rfl⟩
    obtain ⟨hgood, rfl⟩ := (h a a').1 ha'
    exact ⟨hgood, rfl⟩
  · rintro ⟨hgood, rfl⟩
    exact ⟨a, (h a a).2 ⟨hgood, rfl⟩, rfl⟩

/-- What may be missing is written as null, which nothing else is. -/
theorem optional (h : ReadsBack read write good) (hnull : ∀ a, write a ≠ .null) :
    ReadsBack (fun j => readOptional read (some j)) (fun a? => (a?.map write).getD .null)
      (fun a? => ∀ a, a? = some a → good a) := by
  intro a? b?
  cases a? with
  | none => simp [readOptional, eq_comm]
  | some a =>
    have hvalue : readOptional read (some (write a)) = (read (write a)).map some := by
      unfold readOptional
      split
      · rename_i hnone
        cases hnone
      · rename_i hsome
        exact absurd (Option.some.inj hsome) (hnull a)
      · rename_i hsome
        rw [Option.some.inj hsome]
    simpa [hvalue] using h.map_eq_some_iff some a b?

end ReadsBack

end Readers

/-! ## Coordinates -/

theorem readsBack_float : ReadsBack readFloat Json.ofFloat (·.isFinite = true) := by
  intro x y
  unfold Json.ofFloat
  split
  · rename_i hfinite
    simp [readFloat, hfinite, eq_comm]
  · rename_i hinfinite
    simp [readFloat, hinfinite]

theorem readsBack_position : ReadsBack readPosition Position.toJson Position.IsFinite :=
  readsBack_float.array

theorem readsBack_positions :
    ReadsBack readPositions positionsToJson (fun ps => ∀ p ∈ ps, p.IsFinite) :=
  readsBack_position.array

theorem readsBack_lines :
    ReadsBack readLines linesToJson (fun ls => ∀ l ∈ ls, ∀ p ∈ l, p.IsFinite) :=
  readsBack_positions.array

theorem readsBack_areas :
    ReadsBack readAreas areasToJson (fun as => ∀ ls ∈ as, ∀ l ∈ ls, ∀ p ∈ l, p.IsFinite) :=
  readsBack_lines.array

/-! ## Geometries -/

namespace Geometry

theorem read_object {type : String} (h : type ≠ "GeometryCollection") (coordinates : Json) :
    read (object type coordinates) = readSimple type coordinates := by
  have htype : Entries.get? "type" [("coordinates", coordinates), ("type", .str type)] =
      some (.str type) := rfl
  rw [object, read]
  simp only [htype, if_neg h]
  rfl

theorem read_collection (js : List Json) :
    read (.obj [("geometries", .arr js), ("type", .str "GeometryCollection")]) =
      (readAll js).map .collection := by
  rw [read]
  rfl

theorem readAll_eq_mapM (js : List Json) : readAll js = js.mapM read := by
  induction js with
  | nil => simp [readAll]
  | cons j js ih =>
    rw [readAll, List.mapM_cons, ih]
    cases read j with
    | none => rfl
    | some g => cases js.mapM read <;> rfl

theorem toJsonAll_eq_map (gs : List Geometry) : toJsonAll gs = gs.map toJson := by
  induction gs with
  | nil => simp [toJsonAll]
  | cons g gs ih => rw [toJsonAll, ih, List.map_cons]

theorem positionsOfAll_eq_flatten (gs : List Geometry) :
    positionsOfAll gs = (gs.map positions).flatten := by
  induction gs with
  | nil => simp [positionsOfAll]
  | cons g gs ih => rw [positionsOfAll, ih, List.map_cons, List.flatten_cons]

theorem read_toJson_eq_some_iff (g g' : Geometry) :
    read g.toJson = some g' ↔ (∀ p ∈ g.positions, p.IsFinite) ∧ g' = g := by
  cases g with
  | point p =>
    rw [toJson, read_object (by decide), positions, List.forall_mem_singleton]
    exact readsBack_position.map_eq_some_iff ..
  | multiPoint ps =>
    rw [toJson, read_object (by decide), positions]
    exact readsBack_positions.map_eq_some_iff ..
  | lineString ps =>
    rw [toJson, read_object (by decide), positions]
    exact readsBack_positions.map_eq_some_iff ..
  | multiLineString ls =>
    rw [toJson, read_object (by decide), positions, List.forall_mem_flatten]
    exact readsBack_lines.map_eq_some_iff ..
  | polygon rings =>
    rw [toJson, read_object (by decide), positions, List.forall_mem_flatten]
    exact readsBack_lines.map_eq_some_iff ..
  | multiPolygon as =>
    rw [toJson, read_object (by decide), positions, List.forall_mem_flatten,
      List.forall_mem_flatten]
    exact readsBack_areas.map_eq_some_iff ..
  | collection gs =>
    have hall (gs' : List Geometry) : (gs.map toJson).mapM read = some gs' ↔
        (∀ g ∈ gs, ∀ p ∈ g.positions, p.IsFinite) ∧ gs' = gs :=
      mapM_read_eq_some_iff (fun g _ => read_toJson_eq_some_iff g) gs'
    rw [toJson, read_collection, readAll_eq_mapM, toJsonAll_eq_map, positions,
      positionsOfAll_eq_flatten, List.forall_mem_flatten, List.forall_mem_map,
      Option.map_eq_some_iff]
    constructor
    · rintro ⟨gs', hgs', rfl⟩
      obtain ⟨hfinite, rfl⟩ := (hall gs').1 hgs'
      exact ⟨hfinite, rfl⟩
    · rintro ⟨hfinite, rfl⟩
      exact ⟨gs, (hall gs).2 ⟨hfinite, rfl⟩, rfl⟩

theorem readsBack : ReadsBack read toJson (fun g => ∀ p ∈ g.positions, p.IsFinite) :=
  read_toJson_eq_some_iff

theorem toJson_ne_null (g : Geometry) : g.toJson ≠ .null := by
  cases g <;> simp [toJson, object]

end Geometry

/-! ## Features and documents -/

theorem readsBack_fields : ReadsBack readFields .obj (fun _ => True) := by
  intro fields fields'
  simp [readFields, eq_comm]

namespace Feature

/-- All coordinates of a feature are finite. -/
def IsFinite (f : Feature) : Prop :=
  ∀ g, f.geometry = some g → ∀ p ∈ g.positions, p.IsFinite

theorem readsBack : ReadsBack Feature.read toJson IsFinite := by
  intro f f'
  have hgeometry := Geometry.readsBack.optional Geometry.toJson_ne_null f.geometry
  have hproperties := readsBack_fields.optional (fun _ => Json.noConfusion) f.properties
  have hread : Feature.read f.toJson =
      (readOptional Geometry.read (some ((f.geometry.map Geometry.toJson).getD .null))).bind
        fun geometry =>
          (readOptional readFields (some ((f.properties.map Json.obj).getD .null))).bind
            fun properties => some ⟨geometry, properties⟩ := rfl
  rw [hread]
  simp only [Option.bind_eq_some_iff, hgeometry, hproperties]
  constructor
  · rintro ⟨geometry, ⟨hfinite, rfl⟩, properties, ⟨-, rfl⟩, h⟩
    cases h
    exact ⟨hfinite, rfl⟩
  · rintro ⟨hfinite, rfl⟩
    exact ⟨_, ⟨hfinite, rfl⟩, _, ⟨fun _ _ => trivial, rfl⟩, rfl⟩

end Feature

namespace GeoDocument

variable {d e : GeoDocument}

theorem isFinite_iff : d.IsFinite ↔ ∀ g ∈ d.geometries, ∀ p ∈ g.positions, p.IsFinite := by
  unfold IsFinite
  simp only [has_iff, Geometry.mem_positions_iff]
  exact ⟨fun h g hg p hp => h p ⟨g, hg, hp⟩, fun h p ⟨g, hg, hp⟩ => h g hg p hp⟩

theorem map_orUnfit_eq_ok_iff {α : Type} {make : α → GeoDocument} {type : String} {a? : Option α} :
    make <$> orUnfit type a? = .ok e ↔ a?.map make = some e := by
  cases a? with
  | none => exact ⟨nofun, nofun⟩
  | some a =>
    exact ⟨fun h => congrArg some (Except.ok.inj h),
      fun h => congrArg Except.ok (Option.some.inj h)⟩

/-- The type of a geometry is not that of a feature or of some features. -/
theorem exists_ofJson_toJson (g : Geometry) :
    ∃ type, ofJson g.toJson = .geometry <$> orUnfit type (Geometry.read g.toJson) := by
  cases g <;> exact ⟨_, rfl⟩

/-- A document comes back as it was where all its coordinates are finite, and not at all
elsewhere. -/
theorem ofJson_toJson_eq_ok_iff : ofJson d.toJson = .ok e ↔ d.IsFinite ∧ e = d := by
  rw [isFinite_iff]
  cases d with
  | geometry g =>
    obtain ⟨type, htype⟩ := exists_ofJson_toJson g
    rw [toJson, htype, map_orUnfit_eq_ok_iff, Geometry.readsBack.map_eq_some_iff, geometries,
      List.forall_mem_singleton]
  | feature f =>
    have hread : ofJson f.toJson = .feature <$> orUnfit "Feature" (Feature.read f.toJson) := rfl
    rw [toJson, hread, map_orUnfit_eq_ok_iff, Feature.readsBack.map_eq_some_iff, geometries]
    simp only [Option.mem_toList]
    rfl
  | featureCollection fs =>
    have hread : ofJson (featureCollection fs).toJson = .featureCollection <$>
        orUnfit "FeatureCollection" (readArray Feature.read (.arr (fs.map Feature.toJson))) := rfl
    rw [hread, map_orUnfit_eq_ok_iff, Feature.readsBack.array.map_eq_some_iff, geometries]
    simp only [List.mem_filterMap]
    refine and_congr_left fun _ => ⟨?_, ?_⟩
    · rintro h g ⟨f, hf, hg⟩
      exact h f hf g hg
    · exact fun h f hf g hg => h g ⟨f, hf, hg⟩

/-- **A geometry document comes back as it was written exactly where its coordinates are
finite.** -/
theorem ofJson_toJson_iff : ofJson d.toJson = .ok d ↔ d.IsFinite :=
  ofJson_toJson_eq_ok_iff.trans (and_iff_left rfl)

/-- Nothing else is written like a document with finite coordinates. -/
theorem eq_of_toJson_eq (hd : d.IsFinite) (h : d.toJson = e.toJson) : d = e := by
  have hback := ofJson_toJson_eq_ok_iff.2 ⟨hd, rfl⟩
  rw [h] at hback
  exact (ofJson_toJson_eq_ok_iff.1 hback).2

end GeoDocument

end Gazetteer
