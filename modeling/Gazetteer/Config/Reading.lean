import Gazetteer.Config.Basic

/-!
# Settings from data

Settings read from a JSON value, which may itself come from another format. Every field may be left
out, fields that are not known are ignored, and a value of the wrong kind makes the whole
unreadable. A record may also be written as the list of its first few fields.
-/

namespace Gazetteer

namespace Json

/-- The fields of a record with the given names. -/
def record? (names : List String) : Json → Option (List (String × Json))
  | .obj fields => some fields
  | .arr items => if items.length ≤ names.length then some (names.zip items) else none
  | _ => none

/-- A field of a record, or a default where it is left out. -/
def read? {α : Type} (fields : List (String × Json)) (name : String) (decode : Json → Option α)
    (fallback : α) : Option α :=
  match fields.lookup name with
  | some j => decode j
  | none => some fallback

def bool? : Json → Option Bool
  | .bool b => some b
  | _ => none

def number? : Json → Option Float
  | .int n => LatLng.numberOf (.int n)
  | .num x => some x
  | _ => none

def nullable? {α : Type} (decode : Json → Option α) : Json → Option (Option α)
  | .null => some none
  | j => (decode j).map some

def list? {α : Type} (decode : Json → Option α) : Json → Option (List α)
  | .arr items => items.mapM decode
  | _ => none

end Json

def Icon.ofJson (j : Json) : Option Icon := do
  let fields ← j.record? ["prefix", "icon", "marker_color", "shape", "emoji", "opacity"]
  let text (name : String) := Json.read? fields name (Json.nullable? Json.str?) none
  return {
    iconSet := ← text "prefix"
    icon := ← text "icon"
    markerColor := ← text "marker_color"
    shape := ← text "shape"
    emoji := ← text "emoji"
    opacity := ← Json.read? fields "opacity" (Json.nullable? Json.number?) none }

def Stroke.ofJson (j : Json) : Option Stroke := do
  let fields ← j.record? ["color", "weight", "opacity", "dash_array", "fill_color", "fill_opacity"]
  let text (name : String) := Json.read? fields name (Json.nullable? Json.str?) none
  let number (name : String) := Json.read? fields name (Json.nullable? Json.number?) none
  return {
    color := ← text "color"
    weight := ← number "weight"
    opacity := ← number "opacity"
    dashArray := ← text "dash_array"
    fillColor := ← text "fill_color"
    fillOpacity := ← number "fill_opacity" }

def DisplayRule.ofJson (j : Json) : Option DisplayRule := do
  let fields ← j.record? ["query", "preset", "icon", "path"]
  return {
    query := ← Json.read? fields "query" Json.str? ""
    preset := ← Json.read? fields "preset" Json.bool? false
    icon := ← Json.read? fields "icon" Icon.ofJson .empty
    stroke := ← Json.read? fields "path" Stroke.ofJson .empty }

def Config.ofJson (j : Json) : Option Config := do
  let fields ← j.record? ["frontmatter_key", "extensions", "default_query", "display_rules"]
  return {
    key := ← Json.read? fields "frontmatter_key" Json.str? Config.default.key
    extensions := ← Json.read? fields "extensions" (Json.list? Json.str?) Config.default.extensions
    defaultQuery := ← Json.read? fields "default_query" Json.str? Config.default.defaultQuery
    displayRules := ← Json.read? fields "display_rules" (Json.list? DisplayRule.ofJson)
      Config.default.displayRules }

end Gazetteer
