import Gazetteer.Error
import Gazetteer.Json.Writer

/-!
# Errors as JSON

The JSON form of an error is an object with the kind of the error as its only key, or just the kind
if there is nothing more to say.
-/

namespace Gazetteer.Error

def toJson : Error → Json
  | .staleUpdate got current =>
    .obj [("StaleUpdate", .obj [("got", .int got), ("current", .int current)])]
  | e =>
    match e.text? with
    | some text => .obj [(e.kind, .str text)]
    | none => .str e.kind

/-- The error of a kind with a text. -/
def ofText? (kind text : String) : Option Error :=
  match kind with
  | "Config" => some (.config text)
  | "Custom" => some (.custom text)
  | "Geometry" => some (.geometry text)
  | "InvalidLocation" => some (.invalidLocation text)
  | "Io" => some (.io text)
  | "NotFound" => some (.notFound text)
  | "Query" => some (.query text)
  | "Serialization" => some (.serialization text)
  | _ => none

def ofJson : Json → Option Error
  | .str "PermissionDenied" => some .permissionDenied
  | .obj [("PermissionDenied", .null)] => some .permissionDenied
  | .obj [("StaleUpdate", .obj fields)] => do
    let got ← (Json.obj fields).field? "got"
    let current ← (Json.obj fields).field? "current"
    return .staleUpdate (← got.nat64?) (← current.nat64?)
  | .obj [(kind, .str text)] => ofText? kind text
  | _ => none

end Gazetteer.Error
