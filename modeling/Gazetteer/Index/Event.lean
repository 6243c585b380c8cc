import Gazetteer.Json.Writer

/-!
# Events

What is reported after an update of the index was applied. Events also have a JSON form, an object
with the name of the event as its only key.
-/

namespace Gazetteer

/-- Something that happened to the index. -/
inductive LayerEvent where
  /-- Layers with these ids are new. -/
  | added (ids : List String)
  /-- Layers with these ids say something else than before. -/
  | updated (ids : List String)
  /-- Layers with these ids are gone. -/
  | removed (ids : List String)
  /-- The link graph was built again and has this many relations. -/
  | edgesRebuilt (count : Nat)
  /-- A note was read again and has this many layers. -/
  | fileIndexed (path : String) (count : Nat)
  /-- The layers of a note were dropped. -/
  | fileRemoved (path : String)
  deriving DecidableEq, Repr

namespace LayerEvent

def name : LayerEvent → String
  | .added _ => "LayersAdded"
  | .updated _ => "LayersUpdated"
  | .removed _ => "LayersRemoved"
  | .edgesRebuilt _ => "EdgesRebuilt"
  | .fileIndexed _ _ => "FileIndexed"
  | .fileRemoved _ => "FileRemoved"

def ids : LayerEvent → List String
  | .added ids | .updated ids | .removed ids => ids
  | _ => []

protected def toString (e : LayerEvent) : String :=
  let detail := match e with
    | .added ids | .updated ids | .removed ids => toString ids.length
    | .edgesRebuilt count => toString count
    | .fileIndexed path count => s!"{path}, {count}"
    | .fileRemoved path => path
  s!"{e.name}({detail})"

instance : ToString LayerEvent := ⟨LayerEvent.toString⟩

def toJson (e : LayerEvent) : Json :=
  let content : Json := match e with
    | .added ids | .updated ids | .removed ids => .arr (ids.map .str)
    | .edgesRebuilt count => .int count
    | .fileIndexed path count => .arr [.str path, .int count]
    | .fileRemoved path => .str path
  .obj [(e.name, content)]

/-- The texts of an array of strings. -/
def readIds : Json → Option (List String)
  | .arr items => items.mapM Json.str?
  | _ => none

def ofJson : Json → Option LayerEvent
  | .obj [("LayersAdded", j)] => (readIds j).map .added
  | .obj [("LayersUpdated", j)] => (readIds j).map .updated
  | .obj [("LayersRemoved", j)] => (readIds j).map .removed
  | .obj [("EdgesRebuilt", j)] => j.nat64?.map .edgesRebuilt
  | .obj [("FileIndexed", .arr [.str path, j])] => j.nat64?.map (.fileIndexed path)
  | .obj [("FileRemoved", .str path)] => some (.fileRemoved path)
  | _ => none

end LayerEvent

end Gazetteer
