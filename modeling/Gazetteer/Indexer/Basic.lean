import Gazetteer.Config.Basic
import Gazetteer.Index.Event
import Gazetteer.Index.Reconciliation
import Gazetteer.Layer.Building
import Gazetteer.Link.Graph
import Gazetteer.Note.Editing

/-!
# The indexer

The indexer keeps the layers of a collection of notes and the relations between them. A change is
made in two steps: it is prepared from what the notes say, which changes nothing but the generation,
and then applied. A change that was prepared is stale as soon as another one is prepared, so what is
applied was always built against the index it is applied to.
-/

namespace Gazetteer

structure Indexer where
  config : Config
  rules : DisplayRules
  defaultQuery : Query
  index : LayerIndex
  graph : LinkGraph
  /-- The number of changes prepared so far. -/
  generation : Nat

/-- What a change is about. -/
inductive UpdateScope where
  | full
  /-- A note that appeared or changed. -/
  | file (source : SourceRef)
  /-- A note that is gone. -/
  | removal (source : SourceRef)
  deriving DecidableEq, Repr

/-- What a change puts in place of what is there. -/
structure NextState where
  /-- The new layers, all of them or those of one note. -/
  candidates : List Layer
  /-- The markers of other notes that have a new number of relations. -/
  restamped : List Layer
  graph : LinkGraph

/-- A marker with its number of relations, if that is a new one. -/
def LinkGraph.restamp? (graph : LinkGraph) (l : Layer) : Option Layer :=
  l.marker?.bind fun m =>
    if graph.degree m.info.id = m.edgeCount then none else some (.marker (graph.stampMarker m))

/-- The state in which some layers stand beside others that stay. -/
def NextState.beside (notes : Notes) (others ls : List Layer) : NextState :=
  let graph := LinkGraph.ofLayers notes (others ++ ls)
  { candidates := ls.map graph.stamp
    restamped := others.filterMap graph.restamp?
    graph }

/-- A change that was prepared. -/
structure PendingUpdate where
  generation : Nat
  scope : UpdateScope
  /-- The next state; nothing if the change would not change anything. -/
  next : Option NextState
  /-- The pieces of text that look like facts but are none, with their notes. -/
  dropped : List (SourceRef × DroppedFact)

namespace Indexer

/-- An indexer that has not read any notes. -/
def new (config : Config) : Except Config.Fault Indexer := do
  let (defaultQuery, rules) ← config.check
  return { config, rules, defaultQuery, index := .empty, graph := .empty, generation := 0 }

/-- How the indexer makes layers of notes. -/
def settings (x : Indexer) : LayerSettings :=
  ⟨x.config.key, some x.rules⟩

/-- The layers of a file: one for a geometry document, those of its facts for a note, none for a
recorded track. -/
def build (x : Indexer) (notes : Notes) (source : SourceRef) :
    Except Error (List Layer × List DroppedFact) :=
  match SourceFormat.ofExtension source.extension with
  | some .geoJson => do
    let text ← notes.text source
    let geometry ← (GeoDocument.read text).mapError GeoDocument.Fault.toError
    return ([Layer.ofTrack notes (some x.rules) source geometry .geoJson], [])
  | some _ => return ([], [])
  | none => Layer.ofSource notes x.settings source

/-- The layers of a file that is indexed. -/
def buildIndexed (x : Indexer) (notes : Notes) (source : SourceRef) :
    Except Error (List Layer × List DroppedFact) :=
  if x.config.indexes source.extension then x.build notes source else return ([], [])

/-! ## Preparing -/

def advance (x : Indexer) : Indexer :=
  { x with generation := x.generation + 1 }

/-- The layers of all files that can be read, file by file. -/
def buildAll (x : Indexer) (notes : Notes) : List (SourceRef × List Layer × List DroppedFact) :=
  notes.sources.filterMap fun source =>
    (x.buildIndexed notes source).toOption.map fun built => (source, built)

/-- The layers of all files that can be read. -/
def layersIn (x : Indexer) (notes : Notes) : List Layer :=
  (x.buildAll notes).flatMap fun (_, ls, _) => ls

/-- The pieces of text of a file that were dropped, with the file. -/
def droppedIn (source : SourceRef) (ds : List DroppedFact) : List (SourceRef × DroppedFact) :=
  ds.map fun d => (source, d)

def prepareFull (x : Indexer) (notes : Notes) : Indexer × PendingUpdate :=
  let x := x.advance
  (x,
    { generation := x.generation
      scope := .full
      next := some (.beside notes [] (x.layersIn notes))
      dropped := (x.buildAll notes).flatMap fun (source, _, ds) => droppedIn source ds })

/-- The state with some layers in the place of those of a note. -/
def stateWith (x : Indexer) (notes : Notes) (source : SourceRef) (ls : List Layer) : NextState :=
  .beside notes (x.index.others source) ls

/-- The layers of a note that may have changed. A note that is not there has no layers. -/
def rebuild (x : Indexer) (notes : Notes) (source : SourceRef) :
    Except Error (List Layer × List DroppedFact) :=
  match x.buildIndexed notes source with
  | .error (.notFound _) => .ok ([], [])
  | built => built

/-- The change that puts some layers in the place of those of a note. -/
def fileUpdate (x : Indexer) (notes : Notes) (source : SourceRef) (ls : List Layer)
    (ds : List DroppedFact) : PendingUpdate :=
  { generation := x.generation
    scope := .file source
    next :=
      if ls.isEmpty && !x.index.hasLayersOf source.path then none
      else some (x.stateWith notes source ls)
    dropped := droppedIn source ds }

def prepareFile (x : Indexer) (notes : Notes) (source : SourceRef) :
    Indexer × Except Error PendingUpdate :=
  let x := x.advance
  (x, (x.rebuild notes source).map fun (ls, ds) => x.fileUpdate notes source ls ds)

/-- Prepare to drop the layers of a note. -/
def prepareRemoval (x : Indexer) (notes : Notes) (source : SourceRef) : Indexer × PendingUpdate :=
  let x := x.advance
  (x,
    { generation := x.generation
      scope := .removal source
      next := if x.index.hasLayersOf source.path then some (x.stateWith notes source []) else none
      dropped := [] })

/-! ## Applying -/

/-- Put the candidates of a change into an index. -/
def reconcileScope (i : LayerIndex) (scope : UpdateScope) (candidates : List Layer) :
    LayerIndex × Reconciliation :=
  match scope with
  | .full =>
    let r := i.reconcile candidates
    (r.toIndex, r)
  | .file source =>
    let r := i.reconcileSource source.path candidates
    (i.applySource source.path r, r)
  | .removal source =>
    (i.deleteSource source.path, { removed := i.layersOf source.path })

/-- Put restamped markers into an index; those that are not indexed any more are left out. -/
def putRestamped (i : LayerIndex) (updated : List Layer) :
    List Layer → LayerIndex × List Layer
  | [] => (i, updated)
  | l :: ls =>
    if (i.replaced? l).isSome then putRestamped (i.replace l) (updated ++ [l]) ls
    else putRestamped i updated ls

/-- Put the next state of a change into an index. -/
def reconcileNext (i : LayerIndex) (scope : UpdateScope) (next : NextState) :
    LayerIndex × Reconciliation :=
  let (i, r) := reconcileScope i scope next.candidates
  let (i, updated) := putRestamped i r.updated next.restamped
  (i, { r with updated })

/-- The event for some layers, if there are any. -/
def eventOf (event : List String → LayerEvent) (ls : List Layer) : List LayerEvent :=
  if ls.isEmpty then [] else [event (ls.map Layer.id)]

/-- What is reported about a change that was applied. -/
def eventsOf (scope : UpdateScope) (r : Reconciliation) (i : LayerIndex) (g : LinkGraph) :
    List LayerEvent :=
  eventOf .added r.added ++ eventOf .updated r.updated ++ eventOf .removed r.removed ++
    [.edgesRebuilt g.size] ++
    match scope with
    | .full => []
    | .file source => [.fileIndexed source.path (i.layersOf source.path).length]
    | .removal source => [.fileRemoved source.path]

/-- What comes of a change that was applied. -/
structure Applied where
  indexer : Indexer
  reconciliation : Reconciliation
  events : List LayerEvent

/-- Apply a change, unless another one was prepared since. -/
def apply (x : Indexer) (p : PendingUpdate) : Except Error Applied :=
  if p.generation ≠ x.generation then .error (.staleUpdate p.generation x.generation)
  else
    match p.next with
    | none => .ok ⟨x, {}, []⟩
    | some next =>
      let (i, r) := reconcileNext x.index p.scope next
      .ok
        { indexer := { x with index := i, graph := next.graph }
          reconciliation := r
          events := eventsOf p.scope r i next.graph }

/-! ## Reading -/

/-- The indexed layers that a query matches. -/
def visible (x : Indexer) (notes : Notes) (query : Option Query) : List Layer :=
  x.index.layers.filter fun l => (query.getD x.defaultQuery).isMatch notes l

/-- The note of a marker, and its text with the marker moved. -/
def move (x : Indexer) (notes : Notes) (id : String) (p : LatLng) :
    Except Error (SourceRef × String) :=
  match x.index.get? id with
  | none => .error (.notFound s!"no layer with id '{id}'")
  | some (.marker m) => do
    let source := m.info.source
    let text ← notes.text source
    let moved :=
      if m.info.factKind = some .frontMatter then FrontMatter.movePlace text.toList x.config.key p
      else m.moveIn text.toList p
    return (source, String.ofList (← moved.mapError MoveFault.toError))
  | some _ => .error (.custom s!"layer '{id}' is not a point marker and cannot be moved")

end Indexer

end Gazetteer
