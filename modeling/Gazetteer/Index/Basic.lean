import Gazetteer.Layer.Basic

/-!
# The layer index

The layers that are shown, by their ids, and again for every note the layers that come from it, in
the order in which they came in. Floating layers have no id and are never indexed. Every operation
changes both maps; that they go on to agree is `LayerIndex.WF`.
-/

namespace Gazetteer

structure LayerIndex where
  byId : SortedMap String Layer
  /-- The layers of each note that has any. -/
  bySource : SortedMap String (List Layer)

namespace LayerIndex

def empty : LayerIndex := ⟨.empty, .empty⟩

def get? (i : LayerIndex) (id : String) : Option Layer := i.byId.get? id

/-- Whether there is a layer with an id. -/
def contains (i : LayerIndex) (id : String) : Bool := i.byId.contains id

def size (i : LayerIndex) : Nat := i.byId.size

/-- The layers in the order of their ids. -/
def layers (i : LayerIndex) : List Layer := i.byId.values

def ids (i : LayerIndex) : List String := i.byId.keys

/-- The paths of the notes that have layers. -/
def sources (i : LayerIndex) : List String := i.bySource.keys

/-- The layers of a note, in the order in which they came in. -/
def layersOf (i : LayerIndex) (path : String) : List Layer :=
  (i.bySource.get? path).getD []

/-- The layers of other notes than the given one, in the order of their ids. -/
def others (i : LayerIndex) (source : SourceRef) : List Layer :=
  i.layers.filter fun l => l.source? != some source

def hasLayersOf (i : LayerIndex) (path : String) : Bool :=
  i.bySource.contains path

def ofKinds (i : LayerIndex) (kinds : LayerKindSet) : List Layer :=
  i.layers.filter fun l => kinds.contains l.kind

def bounds (i : LayerIndex) : Option Bounds :=
  Bounds.unionAll (i.layers.filterMap Layer.bounds)

/-! ## Operations -/

/-- Whether a layer can be added: it comes from a note and its id is not in use. -/
def accepts (i : LayerIndex) (l : Layer) : Bool :=
  l.source?.isSome && !i.contains l.id

/-- Add a layer that can be added, behind the other layers of its note. -/
def add (i : LayerIndex) (l : Layer) : LayerIndex :=
  match l.source? with
  | none => i
  | some source =>
    if i.contains l.id then i
    else
      { byId := i.byId.insert l.id l
        bySource := i.bySource.insert source.path (i.layersOf source.path ++ [l]) }

def addAll (i : LayerIndex) (ls : List Layer) : LayerIndex :=
  ls.foldl add i

/-- Remove a layer from those of a note; a note that has none left is forgotten. -/
def removeFrom (bySource : SortedMap String (List Layer)) (path id : String) :
    SortedMap String (List Layer) :=
  match bySource.get? path with
  | none => bySource
  | some ls =>
    let rest := ls.filter (·.id != id)
    if rest.isEmpty then bySource.erase path else bySource.insert path rest

def delete (i : LayerIndex) (id : String) : LayerIndex :=
  match i.get? id with
  | none => i
  | some l =>
    { byId := i.byId.erase id
      bySource := match l.source? with
        | none => i.bySource
        | some source => removeFrom i.bySource source.path id }

def deleteSource (i : LayerIndex) (path : String) : LayerIndex :=
  { byId := (i.layersOf path).foldl (fun byId l => byId.erase l.id) i.byId
    bySource := i.bySource.erase path }

/-- The layer that another one would replace: the one with its id, if it comes from the same
note. -/
def replaced? (i : LayerIndex) (l : Layer) : Option Layer :=
  (i.get? l.id).filter fun old => old.source? == l.source?

/-- A layer in the place of the first one with its id. -/
def inPlace (l : Layer) : List Layer → List Layer
  | [] => []
  | old :: ls => if old.id = l.id then l :: ls else old :: inPlace l ls

/-- Put a layer in the place of the one with its id among those of a note. -/
def putInto (bySource : SortedMap String (List Layer)) (path : String) (l : Layer) :
    SortedMap String (List Layer) :=
  match bySource.get? path with
  | none => bySource
  | some ls => bySource.insert path (inPlace l ls)

/-- Put a layer in the place of the one with its id, if that one comes from the same note. -/
def replace (i : LayerIndex) (l : Layer) : LayerIndex :=
  match i.replaced? l with
  | none => i
  | some old =>
    { byId := i.byId.insert l.id l
      bySource := match old.source? with
        | none => i.bySource
        | some source => putInto i.bySource source.path l }

def clear (_ : LayerIndex) : LayerIndex := empty

end LayerIndex

end Gazetteer
