import Gazetteer.Bounds

/-!
# Geometry documents

Points, lines and areas, alone or as features with properties. A position is a list of numbers, the
longitude first, then the latitude, then whatever else was given.
-/

namespace Gazetteer

/-- Longitude, latitude and possibly more, such as an altitude. -/
abbrev Position := List Float

inductive Geometry where
  | point (position : Position)
  | multiPoint (positions : List Position)
  | lineString (positions : List Position)
  | multiLineString (lines : List (List Position))
  | polygon (rings : List (List Position))
  | multiPolygon (polygons : List (List (List Position)))
  | collection (geometries : List Geometry)
  deriving Repr, Inhabited

/-- A geometry with properties; either may be missing. -/
structure Feature where
  geometry : Option Geometry
  properties : Option (List (String × Json))
  deriving Repr

/-- Whatever a geometry block or a track holds. -/
inductive GeoDocument where
  | geometry (g : Geometry)
  | feature (f : Feature)
  | featureCollection (fs : List Feature)
  deriving Repr

namespace Geometry

mutual

def positions : Geometry → List Position
  | .point p => [p]
  | .multiPoint ps | .lineString ps => ps
  | .multiLineString ls | .polygon ls => ls.flatten
  | .multiPolygon as => as.flatten.flatten
  | .collection gs => positionsOfAll gs

/-- Every position of some geometries, in document order. -/
def positionsOfAll : List Geometry → List Position
  | [] => []
  | g :: gs => positions g ++ positionsOfAll gs

end

end Geometry

namespace GeoDocument

/-- The geometries of a document, in document order. -/
def geometries : GeoDocument → List Geometry
  | .geometry g => [g]
  | .feature f => f.geometry.toList
  | .featureCollection fs => fs.filterMap (·.geometry)

/-- Every position of a document, in document order. -/
def positions (d : GeoDocument) : List Position :=
  Geometry.positionsOfAll d.geometries

/-- The name of a document that is one feature with a property `name`. -/
def name? : GeoDocument → Option String
  | .feature ⟨_, some properties⟩ => (Entries.get? "name" properties).bind Json.str?
  | _ => none

def placeOf : Position → Option LatLng
  | lng :: lat :: _ => some ⟨lat, lng⟩
  | _ => none

/-- The box around a document, if it has any position. -/
def bounds (d : GeoDocument) : Option Bounds :=
  Bounds.ofPoints (d.positions.filterMap placeOf)

/-- Why a text is no geometry document. -/
inductive Fault where
  /-- The text is no JSON. -/
  | notJson
  | noType
  | noFeatures
  /-- The members do not fit the type. -/
  | unfit (type : String)
  /-- A position has no latitude or no longitude. -/
  | shortPosition (p : Position)
  /-- A position is no place on earth. -/
  | misplaced (fault : LatLng.Fault)
  deriving Repr

def showPosition (p : Position) : String :=
  "[" ++ ", ".intercalate (p.map Number.Style.listing.render) ++ "]"

def Fault.message : Fault → String
  | .notJson => "not valid JSON"
  | .noType => "missing 'type' member"
  | .noFeatures => "missing 'features'"
  | .unfit type => s!"{type}: the members do not fit the type"
  | .shortPosition p => s!"position {showPosition p} needs at least [lng, lat]"
  | .misplaced fault => fault.toError.message

def Fault.toError (f : Fault) : Error :=
  .geometry f.message

/-- Accept a position that names a place on earth. -/
def checkPosition (p : Position) : Except Fault Unit :=
  match placeOf p with
  | none => .error (.shortPosition p)
  | some place =>
    match place.check with
    | .ok _ => .ok ()
    | .error fault => .error (.misplaced fault)

/-- Accept a document all of whose positions are places on earth; the first one that is not makes
the fault. -/
def check (d : GeoDocument) : Except Fault Unit :=
  d.positions.forM checkPosition

end GeoDocument

end Gazetteer
