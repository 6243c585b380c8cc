import Gazetteer.Coordinate

/-!
# Boxes

A box of latitudes and longitudes. Boxes grow point by point (`extend`) or box by box (`union`).
-/

namespace Gazetteer

/-- A box between two latitudes and two longitudes. -/
structure Bounds where
  south : Float
  west : Float
  north : Float
  east : Float
  deriving Repr

namespace Bounds

/-- The smaller of two numbers, the first of equal ones. -/
def least (a b : Float) : Float :=
  if b < a then b else a

/-- The larger of two numbers, the first of equal ones. -/
def greatest (a b : Float) : Float :=
  if a < b then b else a

def ofPoint (p : LatLng) : Bounds :=
  ⟨p.lat, p.lng, p.lat, p.lng⟩

/-- The smallest box that also holds a point. -/
def extend (b : Bounds) (p : LatLng) : Bounds :=
  ⟨least b.south p.lat, least b.west p.lng, greatest b.north p.lat, greatest b.east p.lng⟩

/-- The smallest box that holds two boxes. -/
def union (a b : Bounds) : Bounds :=
  ⟨least a.south b.south, least a.west b.west, greatest a.north b.north, greatest a.east b.east⟩

/-- The smallest box that holds all the points, if there are any. -/
def ofPoints : List LatLng → Option Bounds
  | [] => none
  | p :: ps => some (ps.foldl extend (ofPoint p))

/-- The smallest box that holds all the boxes, if there are any. -/
def unionAll : List Bounds → Option Bounds
  | [] => none
  | b :: bs => some (bs.foldl union b)

/-- Whether a point lies in the box or on its edge. -/
def contains (b : Bounds) (p : LatLng) : Bool :=
  decide (b.south ≤ p.lat) && decide (p.lat ≤ b.north) &&
    decide (b.west ≤ p.lng) && decide (p.lng ≤ b.east)

def center (b : Bounds) : LatLng :=
  ⟨(b.south + b.north) / 2.0, (b.west + b.east) / 2.0⟩

end Bounds

end Gazetteer
