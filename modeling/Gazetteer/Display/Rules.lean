import Gazetteer.Query.Basic

/-!
# Display rules

A display rule says how the layers that a query matches are drawn. A preset counts for every layer,
before all other rules; apart from that rules count in their order. Each lays its style over the
style so far, so the last rule that sets a property decides it.
-/

namespace Gazetteer

/-- How a layer is drawn: the icon if it is a point, the stroke if it is a geometry. -/
structure Styling where
  icon : Icon
  stroke : Stroke
  deriving BEq, Repr, Inhabited

namespace Styling

def empty : Styling := ⟨.empty, .empty⟩

/-- The properties of `upper`, and those of `lower` where `upper` leaves them open. -/
def overlay (lower upper : Styling) : Styling :=
  ⟨lower.icon.overlay upper.icon, lower.stroke.overlay upper.stroke⟩

end Styling

/-- A display rule as it is written. -/
structure DisplayRule where
  query : String := ""
  preset : Bool := false
  icon : Icon := .empty
  stroke : Stroke := .empty
  deriving BEq, Repr, Inhabited

namespace DisplayRule

/-- The rules that count where no others are given: blue circles and lines. -/
def defaults : List DisplayRule := [
  { preset := true
    icon :=
      { iconSet := some "fas", icon := some "fa-circle", markerColor := some "blue"
        shape := some "circle" }
    stroke := { color := some "#3388ff", weight := some 3.0, opacity := some 1.0 } }]

end DisplayRule

/-- A display rule with its query compiled. -/
structure CompiledRule where
  query : Query
  preset : Bool
  styling : Styling

/-- A set of display rules. -/
structure DisplayRules where
  rules : List CompiledRule

namespace DisplayRules

/-- A rule whose query is none: its number, its query and what is wrong with it. -/
structure Fault where
  index : Nat
  query : String
  cause : Query.Fault
  deriving DecidableEq, Repr

def Fault.toError (f : Fault) : Error :=
  .config s!"display rule {f.index} ('{f.query}'): {f.cause.toError.message}"

/-- Compile rules, counting from `index`; the first query that is none is a fault of all of them. -/
def compileFrom (index : Nat) : List DisplayRule → Except Fault (List CompiledRule)
  | [] => .ok []
  | r :: rs =>
    match Query.compile r.query with
    | .error cause => .error ⟨index, r.query, cause⟩
    | .ok query => do
      let compiled ← compileFrom (index + 1) rs
      return ⟨query, r.preset, ⟨r.icon, r.stroke⟩⟩ :: compiled

def compile (rules : List DisplayRule) : Except Fault DisplayRules :=
  (compileFrom 0 rules).map DisplayRules.mk

/-- The rules that count for a layer, in the order in which they count. -/
def rulesFor (rs : DisplayRules) (notes : Notes) (l : Layer) : List CompiledRule :=
  rs.rules.filter (·.preset) ++ rs.rules.filter fun r => !r.preset && r.query.isMatch notes l

def stylingFor (rs : DisplayRules) (notes : Notes) (l : Layer) : Styling :=
  ((rs.rulesFor notes l).map (·.styling)).foldl Styling.overlay .empty

end DisplayRules

end Gazetteer
