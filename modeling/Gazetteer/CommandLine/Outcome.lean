import Gazetteer.CommandLine.Command
import Gazetteer.Config.Document
import Gazetteer.Indexer.Basic
import Gazetteer.Store.Vault

/-!
# Outcomes

What carrying out a command comes to: the lines that it shows, the notices beside them, and whether
it succeeded. Pieces of text that look like facts but are none give notices and no failure.
-/

namespace Gazetteer

/-- An error as the program reports it: its kind with what there is to say about it. -/
def Error.report (e : Error) : String :=
  match e, e.text? with
  | .staleUpdate got current, _ =>
    e.kind ++ " \x7b got: " ++ toString got ++ ", current: " ++ toString current ++ " \x7d"
  | _, some text => s!"{e.kind}({Text.quoted text})"
  | _, none => e.kind

/-- What a command comes to. -/
structure Outcome where
  /-- Zero for success, two for arguments that make no sense, one for any other failure. -/
  status : Nat
  /-- The lines that the command shows. -/
  lines : List String
  /-- Lines about what went wrong. -/
  notices : List String
  deriving DecidableEq, Repr

/-- A vault that was read. -/
structure Survey where
  notes : Notes
  indexer : Indexer
  /-- The pieces of text that look like facts but are none, with their notes. -/
  dropped : List (SourceRef × DroppedFact)

namespace Survey

/-- The settings in a file; without the file, the default ones. -/
def config (disk : Disk) (path : String) : Except Error Config :=
  match disk.at? path with
  | .ok t => do
    let document ← t.note.mapError SystemFault.toError
    Config.ofDocument document.text.toList
  | .error _ => .ok .default

/-- Read a vault, with the settings in a file of its own where no other is given. -/
def ofVault (disk : Disk) (root : String) (configPath : Option String) : Except Error Survey := do
  let config ← config disk (configPath.getD (Path.join root "geolayer.toml"))
  let vault ← Vault.open? disk root config.extensions
  let indexer ← (Indexer.new config).mapError Config.Fault.toError
  let (indexer, pending) := indexer.prepareFull vault.notes
  let applied ← indexer.apply pending
  return ⟨vault.notes, applied.indexer, pending.dropped⟩

/-- The notices about pieces of text that look like facts but are none. -/
def notices (s : Survey) : List String :=
  s.dropped.map fun (source, d) => s!"{source.path}: {d.report d.error.message}"

/-- The text of the layer with an id. -/
def layerText (s : Survey) (id : String) : String :=
  ((s.indexer.index.get? id).map toString).getD id

end Survey

namespace Outcome

def success (lines notices : List String) : Outcome :=
  ⟨0, lines, notices⟩

/-- A command that failed, after some notices. -/
def failure (notices : List String) (e : Error) : Outcome :=
  ⟨1, [], notices ++ [s!"Error: {e.report}"]⟩

/-- The outcome of a computation that may fail. -/
def ofExcept (notices : List String) : Except Error (List String) → Outcome
  | .ok lines => success lines notices
  | .error e => failure notices e

end Outcome

/-- A value that may be missing, as JSON. -/
def Json.ofOption {α : Type} (f : α → Json) (a : Option α) : Json :=
  (a.map f).getD .null

/-- A layer as one line of JSON. -/
def Layer.jsonLine (l : Layer) : String :=
  (Json.ofFields [
    ("id", .str l.id),
    ("kind", .str l.kind.name),
    ("name", .str l.name),
    ("source", Json.ofOption (fun s : SourceRef => .str s.path) l.source?),
    ("line", Json.ofOption (fun n : Nat => .int n) l.line?),
    ("location", Json.ofOption (fun p : LatLng =>
      Json.ofFields [("lat", .num p.lat), ("lng", .num p.lng)]) l.location?),
    ("bounds", Json.ofOption (fun b : Bounds => Json.ofFields [("south", .num b.south),
      ("west", .num b.west), ("north", .num b.north), ("east", .num b.east)]) l.bounds),
    ("tags", .arr (l.tags.map .str)),
    ("edges", Json.ofOption (fun m : Marker => .int m.edgeCount) l.marker?)]).write

/-- A query as the program shows it. -/
def Query.line (q : Query) : String :=
  if q.isEmpty then "(empty query, matches everything)" else toString q

namespace Command

/-- The lines that a command about a vault shows. -/
def onVault (disk : Disk) (root : String) (configPath : Option String)
    (lines : Survey → Except Error (List String)) : Outcome :=
  match Survey.ofVault disk root configPath with
  | .ok s => .ofExcept s.notices (lines s)
  | .error e => .failure [] e

def run (disk : Disk) : Command → Outcome
  | .scan root query configPath json => onVault disk root configPath fun s => do
    let query ← query.mapM fun text => (Query.compile text).mapError Query.Fault.toError
    return (s.indexer.visible s.notes query).map (if json then Layer.jsonLine else toString)
  | .edges root configPath => onVault disk root configPath fun s =>
    return s.indexer.graph.pairs.map fun p => s!"{s.layerText p.low} <-> {s.layerText p.high}"
  | .checkQuery text => .ofExcept [] do
    let query ← (Query.compile text).mapError Query.Fault.toError
    return [query.line]

def usage : List String := [
  "Usage: geolayer scan [-q QUERY] [-c CONFIG] [--json] VAULT",
  "       geolayer edges [-c CONFIG] VAULT",
  "       geolayer check-query QUERY"]

/-- What comes of arguments that are no command. -/
def stopped : Stop → Outcome
  | .help => ⟨0, usage, []⟩
  | .version => ⟨0, ["geolayer 0.0.0"], []⟩
  | .misuse => ⟨2, [], usage⟩

/-- Carry out what the arguments ask for. -/
def perform (disk : Disk) (arguments : List String) : Outcome :=
  match read arguments with
  | .ok command => command.run disk
  | .error stop => stopped stop

end Command

end Gazetteer
