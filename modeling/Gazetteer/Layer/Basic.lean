import Gazetteer.Digest
import Gazetteer.Display.Basic
import Gazetteer.Note.Fact
import Gazetteer.Note.Outline

/-!
# Layers

A layer is one thing to show on the map. Layers that come from a note know where they stand in it
and have an id, which is made of the file name, the content and the position, so the same text gives
the same ids again; floating layers come from nowhere and have none.

`Layer.sameContent` is the comparison by which a fresh layer gives way to the one already indexed
under its id.
-/

namespace Gazetteer

/-! ## Kinds -/

inductive LayerKind where
  | pointMarker
  | geometry
  | floatingPoint
  | floatingGeometry
  deriving DecidableEq, Repr

namespace LayerKind

def name : LayerKind → String
  | .pointMarker => "PointMarker"
  | .geometry => "Geometry"
  | .floatingPoint => "FloatingPoint"
  | .floatingGeometry => "FloatingGeometry"

def all : List LayerKind := [.pointMarker, .geometry, .floatingPoint, .floatingGeometry]

end LayerKind

/-- A set of kinds, listed in order. -/
structure LayerKindSet where
  members : List LayerKind
  deriving DecidableEq, Repr

namespace LayerKindSet

def ofList (ks : List LayerKind) : LayerKindSet :=
  ⟨LayerKind.all.filter fun k => ks.contains k⟩

def all : LayerKindSet := ofList LayerKind.all

/-- The kinds of layers that come from nowhere. -/
def floating : LayerKindSet := ofList [.floatingPoint, .floatingGeometry]

def union (a b : LayerKindSet) : LayerKindSet := ofList (a.members ++ b.members)

/-- Whether a kind is in the set. -/
def contains (s : LayerKindSet) (k : LayerKind) : Bool := s.members.contains k

protected def toString (s : LayerKindSet) : String :=
  "EnumSet(" ++ " | ".intercalate (s.members.map LayerKind.name) ++ ")"

end LayerKindSet

/-- What a geometry layer was read from. -/
inductive SourceFormat where
  | geoJson
  | gpx
  | kml
  | tcx
  deriving DecidableEq, Repr

namespace SourceFormat

def name : SourceFormat → String
  | .geoJson => "GeoJson"
  | .gpx => "Gpx"
  | .kml => "Kml"
  | .tcx => "Tcx"

/-- Whether files of this format are recorded tracks. -/
def isTrack : SourceFormat → Bool
  | .geoJson => false
  | _ => true

/-- The format of the files with an extension, without regard to ASCII case. -/
def ofExtension (extension : String) : Option SourceFormat :=
  match String.ofList (extension.toList.map Char.toLower) with
  | "geojson" | "json" => some .geoJson
  | "gpx" => some .gpx
  | "kml" => some .kml
  | "tcx" => some .tcx
  | _ => none

end SourceFormat

/-! ## Layers -/

/-- What a layer knows about the note it comes from. -/
structure LayerInfo where
  source : SourceRef
  id : String := ""
  /-- The character offset of the fact; facts about the whole document have none. -/
  offset : Option Nat := none
  byteOffset : Option Nat := none
  line : Option Nat := none
  heading : Option Heading := none
  block : Option Block := none
  factKind : Option FactKind := none
  /-- The text of the fact, kept so that it can be found again. -/
  rawText : Option String := none
  displayName : Option String := none
  tags : List String := []
  deriving Repr

/-- A place in a note. -/
structure Marker where
  info : LayerInfo
  location : LatLng
  icon : Icon
  /-- The number of links between this marker and others. -/
  edgeCount : Nat
  deriving Repr

/-- A geometry in a note, or a track. -/
structure GeometryLayer where
  info : LayerInfo
  geometry : GeoDocument
  format : SourceFormat
  style : Stroke
  deriving Repr

/-- A place from nowhere, such as a search result. -/
structure FloatingMarker where
  location : LatLng
  displayName : Option String
  icon : Icon
  tags : List String
  deriving Repr

/-- A geometry from nowhere, such as a computed route. -/
structure FloatingGeometry where
  geometry : GeoDocument
  displayName : Option String
  style : Stroke
  tags : List String
  deriving Repr

/-- One thing to show on the map. -/
inductive Layer where
  | marker (m : Marker)
  | geometry (g : GeometryLayer)
  | floatingMarker (m : FloatingMarker)
  | floatingGeometry (g : FloatingGeometry)
  deriving Repr

namespace LayerInfo

/-- Whether the fact is about the whole document. -/
def isDocumentLevel (i : LayerInfo) : Bool :=
  i.offset.isNone

/-- The part of an id that says where in its document the fact stands. -/
def positionText (i : LayerInfo) : String :=
  ((i.offset.map toString).getD "nofileloc") ++ ((i.line.map toString).getD "nofileline")

/-- Whether two facts stand at the same position of files with the same name. -/
def samePosition (a b : LayerInfo) : Bool :=
  a.source.name == b.source.name && a.offset == b.offset && a.line == b.line

end LayerInfo

namespace Marker

/-- The id of a marker: file name, place and position. -/
def computeId (m : Marker) : String :=
  m.info.source.name ++ m.location.toIdString ++ m.info.positionText

/-- A marker under the id that its content gives it. -/
def withId (m : Marker) : Marker :=
  { m with info := { m.info with id := m.computeId } }

/-- A marker not drawn in any special way, without links. -/
def new (info : LayerInfo) (location : LatLng) : Marker :=
  Marker.withId ⟨info, location, .empty, 0⟩

/-- Whether two markers look the same on the map and in lists. -/
def sameContent (a b : Marker) : Bool :=
  a.info.samePosition b.info && a.location.toIdString == b.location.toIdString &&
    a.info.displayName == b.info.displayName && a.edgeCount == b.edgeCount && a.icon == b.icon

end Marker

namespace GeometryLayer

/-- The id of a geometry: file name, digest of the content and position. -/
def computeId (g : GeometryLayer) : String :=
  g.info.source.name ++ Digest.ofText g.geometry.toJson.write ++ g.info.positionText

/-- A geometry under the id that its content gives it. -/
def withId (g : GeometryLayer) : GeometryLayer :=
  { g with info := { g.info with id := g.computeId } }

/-- A geometry not drawn in any special way. -/
def new (info : LayerInfo) (geometry : GeoDocument) (format : SourceFormat) : GeometryLayer :=
  GeometryLayer.withId ⟨info, geometry, format, .empty⟩

/-- Whether two geometries stand at the same position; their content shows in their ids. -/
def sameContent (a b : GeometryLayer) : Bool :=
  a.info.samePosition b.info

end GeometryLayer

namespace Layer

def kind : Layer → LayerKind
  | .marker _ => .pointMarker
  | .geometry _ => .geometry
  | .floatingMarker _ => .floatingPoint
  | .floatingGeometry _ => .floatingGeometry

/-- What a layer knows about its note. -/
def info? : Layer → Option LayerInfo
  | .marker m => some m.info
  | .geometry g => some g.info
  | _ => none

/-- A layer with something else known about its note. -/
def mapInfo (f : LayerInfo → LayerInfo) : Layer → Layer
  | .marker m => .marker { m with info := f m.info }
  | .geometry g => .geometry { g with info := f g.info }
  | l => l

/-- The id, empty for a floating layer. -/
def id (l : Layer) : String :=
  (l.info?.map (·.id)).getD ""

def source? (l : Layer) : Option SourceRef :=
  l.info?.map (·.source)

def offset? (l : Layer) : Option Nat :=
  l.info?.bind (·.offset)

def line? (l : Layer) : Option Nat :=
  l.info?.bind (·.line)

/-- The name that was given to a layer. -/
def displayName? : Layer → Option String
  | .marker m => m.info.displayName
  | .geometry g => g.info.displayName
  | .floatingMarker m => m.displayName
  | .floatingGeometry g => g.displayName

/-- The name given to a layer, or else that of its note. -/
def name (l : Layer) : String :=
  (l.displayName?.or (l.source?.map (·.baseName))).getD ""

def tags : Layer → List String
  | .marker m => m.info.tags
  | .geometry g => g.info.tags
  | .floatingMarker m => m.tags
  | .floatingGeometry g => g.tags

/-- The place of a layer that is a point. -/
def location? : Layer → Option LatLng
  | .marker m => some m.location
  | .floatingMarker m => some m.location
  | _ => none

def marker? : Layer → Option Marker
  | .marker m => some m
  | _ => none

def isFloating (l : Layer) : Bool :=
  LayerKindSet.floating.contains l.kind

/-- A layer under the id that its content gives it. -/
def withId : Layer → Layer
  | .marker m => .marker m.withId
  | .geometry g => .geometry g.withId
  | l => l

/-- Whether a layer says nothing that another one does not say. A floating layer has no position by
which to compare it and is only the same as itself: `oneInstance` says that both sides are one. -/
def sameContent (oneInstance : Bool) : Layer → Layer → Bool
  | .marker a, .marker b => a.sameContent b
  | .geometry a, .geometry b => a.sameContent b
  | .floatingMarker _, .floatingMarker _ => oneInstance
  | .floatingGeometry _, .floatingGeometry _ => oneInstance
  | _, _ => false

def bounds : Layer → Option Bounds
  | .marker m => some (Bounds.ofPoint m.location)
  | .floatingMarker m => some (Bounds.ofPoint m.location)
  | .geometry g => g.geometry.bounds
  | .floatingGeometry g => g.geometry.bounds

/-- Where a layer stands, as messages show it. -/
def placeText (i : LayerInfo) : String :=
  match i.line with
  | some line => s!"({i.source.path}:{line})"
  | none => s!"({i.source.path})"

protected def toString (l : Layer) : String :=
  match l with
  | .marker m => s!"{l.kind.name} '{l.name}' at {m.location} {placeText m.info}"
  | .geometry g => s!"{l.kind.name} '{l.name}' {g.format.name} {placeText g.info}"
  | .floatingMarker m => s!"{l.kind.name} '{l.name}' at {m.location}"
  | .floatingGeometry _ => s!"{l.kind.name} '{l.name}'"

instance : ToString Layer := ⟨Layer.toString⟩

end Layer

end Gazetteer
