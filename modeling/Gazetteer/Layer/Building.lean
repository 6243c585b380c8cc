import Gazetteer.Display.Rules

/-!
# The layers of a note

Every fact of a note becomes one layer. The layer knows where in the structure of the note its fact
stands, has the tags of the note and those of the fact, and is drawn as the display rules say.
-/

namespace Gazetteer

structure LayerSettings where
  /-- The property that holds the place of a whole note. -/
  key : String := "location"
  /-- The display rules; without rules nothing is drawn in a special way. -/
  rules : Option DisplayRules := none

namespace Layer

/-- A layer drawn as the display rules say. -/
def style (rules : Option DisplayRules) (notes : Notes) (l : Layer) : Layer :=
  match rules with
  | none => l
  | some rs =>
    let styling := rs.stylingFor notes l
    match l with
    | .marker m => .marker { m with icon := styling.icon }
    | .geometry g => .geometry { g with style := styling.stroke }
    | .floatingMarker m => .floatingMarker { m with icon := styling.icon }
    | .floatingGeometry g => .floatingGeometry { g with style := styling.stroke }

/-- What the layer of a fact knows about its note; nothing if the fact stands outside the text. -/
def infoOf (source : SourceRef) (outline : Option Outline) (text : List Char)
    (fileTags : List String) (f : Fact) : Option LayerInfo :=
  let base : LayerInfo :=
    { source
      factKind := some f.kind
      displayName := f.displayName
      tags := fileTags ++ ((f.tagsText.map fun t => Pattern.inlineTags t.toList).getD []) }
  match f.spot with
  | none => some base
  | some spot =>
    (Text.splitBytes text spot.byteOffset).map fun (preceding, _) =>
      let line := preceding.count '\n'
      { base with
        offset := some spot.offset
        byteOffset := some spot.byteOffset
        line := some line
        heading := outline.bind (·.headingAt line)
        block := outline.bind (·.blockAt line)
        rawText := some (String.ofList f.text) }

/-- The layer of a fact, given what it knows about its note. -/
def ofPayload (i : LayerInfo) : Payload → Layer
  | .place p => .marker (.new i p)
  | .geometry d => .geometry (.new i d .geoJson)

/-- The layers of facts of a note, in their order. A fact that stands outside the text has none. -/
def ofFacts (notes : Notes) (rules : Option DisplayRules) (source : SourceRef) (text : List Char)
    (facts : List Fact) (fileTags : List String) : List Layer :=
  facts.filterMap fun f =>
    (infoOf source (notes.outline? source) text fileTags f).map fun i =>
      (ofPayload i f.payload).style rules notes

/-- The layers of a note, and the pieces of text that look like facts but are none. -/
def ofSource (notes : Notes) (s : LayerSettings) (source : SourceRef) :
    Except Error (List Layer × List DroppedFact) := do
  let note ← notes.read source
  let text := note.text.toList
  let found := Extraction.ofNote text note.frontMatter s.key
  return (ofFacts notes s.rules source text found.facts note.tags, found.dropped)

/-- The layer of a track that was read from a file. -/
def ofTrack (notes : Notes) (rules : Option DisplayRules) (source : SourceRef)
    (geometry : GeoDocument) (format : SourceFormat) : Layer :=
  (Layer.geometry (.new
    { source, displayName := geometry.name?, tags := notes.tags source } geometry format)).style
    rules notes

end Layer

end Gazetteer
