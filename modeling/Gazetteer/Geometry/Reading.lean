import Gazetteer.Geometry.Basic
import Gazetteer.Json.Reader

/-!
# Geometry documents as JSON

The JSON form of a geometry document and how it is read back. Reading looks only at the members it
needs and takes an object whose members are listed in an array, in the order in which they are
written here, for the object itself.
-/

namespace Gazetteer

/-! ## Writing -/

/-- Coordinates, nested as deep as the type demands. -/
def Position.toJson (p : Position) : Json := .arr (p.map Json.ofFloat)

def positionsToJson (ps : List Position) : Json := .arr (ps.map Position.toJson)

def linesToJson (ls : List (List Position)) : Json := .arr (ls.map positionsToJson)

def areasToJson (as : List (List (List Position))) : Json := .arr (as.map linesToJson)

namespace Geometry

/-- An object with coordinates and a type. -/
def object (type : String) (coordinates : Json) : Json :=
  .obj [("coordinates", coordinates), ("type", .str type)]

mutual

def toJson : Geometry → Json
  | .point p => object "Point" (Position.toJson p)
  | .multiPoint ps => object "MultiPoint" (positionsToJson ps)
  | .lineString ps => object "LineString" (positionsToJson ps)
  | .multiLineString ls => object "MultiLineString" (linesToJson ls)
  | .polygon ls => object "Polygon" (linesToJson ls)
  | .multiPolygon as => object "MultiPolygon" (areasToJson as)
  | .collection gs =>
    .obj [("geometries", .arr (toJsonAll gs)), ("type", .str "GeometryCollection")]

def toJsonAll : List Geometry → List Json
  | [] => []
  | g :: gs => toJson g :: toJsonAll gs

end

end Geometry

def Feature.toJson (f : Feature) : Json :=
  .obj [
    ("geometry", (f.geometry.map Geometry.toJson).getD .null),
    ("properties", (f.properties.map Json.obj).getD .null),
    ("type", .str "Feature")]

def GeoDocument.toJson : GeoDocument → Json
  | .geometry g => g.toJson
  | .feature f => f.toJson
  | .featureCollection fs =>
    .obj [("features", .arr (fs.map Feature.toJson)), ("type", .str "FeatureCollection")]

/-! ## Reading -/

def readFloat : Json → Option Float
  | .int n => some (Number.nearest (decide (n < 0)) n.natAbs 1)
  | .num x => some x
  | _ => none

/-- An array all of whose elements can be read. -/
def readArray {α : Type} (element : Json → Option α) : Json → Option (List α)
  | .arr items => items.mapM element
  | _ => none

def readPosition : Json → Option Position := readArray readFloat

def readPositions : Json → Option (List Position) := readArray readPosition

def readLines : Json → Option (List (List Position)) := readArray readPositions

def readAreas : Json → Option (List (List (List Position))) := readArray readLines

namespace Geometry

def readSimple (type : String) (coordinates : Json) : Option Geometry :=
  match type with
  | "Point" => (readPosition coordinates).map .point
  | "MultiPoint" => (readPositions coordinates).map .multiPoint
  | "LineString" => (readPositions coordinates).map .lineString
  | "MultiLineString" => (readLines coordinates).map .multiLineString
  | "Polygon" => (readLines coordinates).map .polygon
  | "MultiPolygon" => (readAreas coordinates).map .multiPolygon
  | _ => none

theorem sizeOf_get?_lt {key : String} {fields : List (String × Json)} {j : Json}
    (h : Entries.get? key fields = some j) : sizeOf j < sizeOf fields := by
  induction fields with
  | nil => cases h
  | cons f fields ih =>
    obtain ⟨k, v⟩ := f
    simp only [Entries.get?] at h
    split at h
    · cases h
      simp only [List.cons.sizeOf_spec, Prod.mk.sizeOf_spec]
      omega
    · have := ih h
      simp only [List.cons.sizeOf_spec]
      omega

mutual

def read (j : Json) : Option Geometry :=
  match j with
  | .obj fields =>
    match Entries.get? "type" fields with
    | some (.str type) =>
      if type = "GeometryCollection" then
        match h : Entries.get? "geometries" fields with
        | some (.arr items) =>
          have : sizeOf items < 1 + sizeOf fields := by
            have := sizeOf_get?_lt h
            simp only [Json.arr.sizeOf_spec] at this
            omega
          (readAll items).map .collection
        | _ => none
      else (Entries.get? "coordinates" fields).bind (readSimple type)
    | _ => none
  | .arr [.str "GeometryCollection", .arr items] => (readAll items).map .collection
  | .arr [.str type, coordinates] => readSimple type coordinates
  | _ => none
  termination_by sizeOf j

def readAll (js : List Json) : Option (List Geometry) :=
  match js with
  | [] => some []
  | j :: js =>
    match read j with
    | some g => (readAll js).map (g :: ·)
    | none => none
  termination_by sizeOf js

end

end Geometry

/-- Read something that may be missing or null. -/
def readOptional {α : Type} (value : Json → Option α) : Option Json → Option (Option α)
  | none | some .null => some none
  | some j => (value j).map some

def readFields : Json → Option (List (String × Json))
  | .obj fields => some fields
  | _ => none

def Feature.read : Json → Option Feature
  | .obj fields => do
    let geometry ← readOptional Geometry.read (Entries.get? "geometry" fields)
    let properties ← readOptional readFields (Entries.get? "properties" fields)
    return { geometry, properties }
  | .arr (geometry :: rest) => do
    let geometry ← readOptional Geometry.read (some geometry)
    match rest with
    | [] => return { geometry, properties := none }
    | [properties] => return { geometry, properties := ← readOptional readFields (some properties) }
    | _ => none
  | _ => none

namespace GeoDocument

/-- What is read, or the type that it does not fit. -/
def orUnfit {α : Type} (type : String) : Option α → Except Fault α
  | some a => .ok a
  | none => .error (.unfit type)

/-- Read a document from its JSON form. -/
def ofJson (j : Json) : Except Fault GeoDocument :=
  match (j.field? "type").bind Json.str? with
  | none => .error .noType
  | some type =>
    if type = "Feature" then .feature <$> orUnfit type (Feature.read j)
    else if type = "FeatureCollection" then
      match j.field? "features" with
      | none => .error .noFeatures
      | some features => .featureCollection <$> orUnfit type (readArray Feature.read features)
    else .geometry <$> orUnfit type (Geometry.read j)

/-- Read a document from text; all of its positions have to be places on earth. -/
def read (text : String) : Except Fault GeoDocument :=
  match Json.read text with
  | none => .error .notJson
  | some j => do
    let d ← ofJson j
    d.check
    return d

end GeoDocument

end Gazetteer
