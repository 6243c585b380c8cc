/-!
# Icons and strokes

How a layer is drawn. Every property may be left open; laying one style over another (`overlay`)
keeps the properties that the upper one leaves open.
-/

namespace Gazetteer

/-- The icon of a point marker. -/
structure Icon where
  iconSet : Option String := none
  icon : Option String := none
  markerColor : Option String := none
  shape : Option String := none
  emoji : Option String := none
  opacity : Option Float := none
  deriving BEq, Repr, Inhabited

/-- The stroke and fill of a geometry. -/
structure Stroke where
  color : Option String := none
  weight : Option Float := none
  opacity : Option Float := none
  dashArray : Option String := none
  fillColor : Option String := none
  fillOpacity : Option Float := none
  deriving BEq, Repr, Inhabited

def Icon.empty : Icon := {}

def Stroke.empty : Stroke := {}

/-- The properties of `upper`, and those of `lower` where `upper` leaves them open. -/
def Icon.overlay (lower upper : Icon) : Icon where
  iconSet := upper.iconSet.or lower.iconSet
  icon := upper.icon.or lower.icon
  markerColor := upper.markerColor.or lower.markerColor
  shape := upper.shape.or lower.shape
  emoji := upper.emoji.or lower.emoji
  opacity := upper.opacity.or lower.opacity

/-- The properties of `upper`, and those of `lower` where `upper` leaves them open. -/
def Stroke.overlay (lower upper : Stroke) : Stroke where
  color := upper.color.or lower.color
  weight := upper.weight.or lower.weight
  opacity := upper.opacity.or lower.opacity
  dashArray := upper.dashArray.or lower.dashArray
  fillColor := upper.fillColor.or lower.fillColor
  fillOpacity := upper.fillOpacity.or lower.fillOpacity

def Icon.isEmpty (i : Icon) : Bool := i == Icon.empty

def Stroke.isEmpty (s : Stroke) : Bool := s == Stroke.empty

end Gazetteer
