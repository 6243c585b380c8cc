import Gazetteer.Geometry.Reading

/-!
# Facts in a note

The places and geometries that the text of a note and its front matter hold. Finding them depends on
nothing else. A piece of text that has the form of a fact but holds no place or geometry is dropped,
with the reason, and does not disturb the others.
-/

namespace Gazetteer

/-- The notation in which a fact is written. -/
inductive FactKind where
  /-- A place as inline code. -/
  | legacy
  /-- A place as a link with a name and tags. -/
  | inline
  /-- A fenced geometry. -/
  | geometryBlock
  /-- The place of the whole note. -/
  | frontMatter
  deriving DecidableEq, Repr

def FactKind.name : FactKind → String
  | .legacy => "Legacy"
  | .inline => "Inline"
  | .geometryBlock => "GeometryBlock"
  | .frontMatter => "FrontMatter"

inductive Payload where
  | place (p : LatLng)
  | geometry (d : GeoDocument)
  deriving Repr

/-- A position in a text, in characters and in bytes. -/
structure Spot where
  offset : Nat
  byteOffset : Nat
  deriving DecidableEq, Repr

structure Fact where
  kind : FactKind
  payload : Payload
  displayName : Option String
  /-- The tag items behind the fact. -/
  tagsText : Option String
  /-- Where the fact stands; the front matter is no position in the text. -/
  spot : Option Spot
  /-- The text of the fact. -/
  text : List Char
  deriving Repr

/-- A piece of text that has the form of a fact but is none. -/
structure DroppedFact where
  kind : FactKind
  offset : Option Nat
  text : List Char
  error : Error
  deriving Repr

/-- What a dropped fact is reported as, given the wording of the reason. -/
def DroppedFact.report (d : DroppedFact) (reason : String) : String :=
  match d.offset with
  | some offset =>
    s!"{d.kind.name} match at offset {offset} ('{String.ofList d.text}') dropped: {reason}"
  | none => s!"{d.kind.name} match dropped: {reason}"

/-- What a dropped fact is reported as. -/
def DroppedFact.message (d : DroppedFact) : String :=
  d.report d.error.message

/-- The facts of a note and the pieces that were dropped. -/
structure Extraction where
  facts : List Fact
  dropped : List DroppedFact
  deriving Repr

namespace Extraction

def append (a b : Extraction) : Extraction :=
  ⟨a.facts ++ b.facts, a.dropped ++ b.dropped⟩

instance : Append Extraction := ⟨append⟩

/-- A group without the blanks around it, if anything is left. -/
def groupText (m : Pattern.Match) (name : String) : Option String :=
  match (m.group? name).map Unicode.trim with
  | some (c :: cs) => some (String.ofList (c :: cs))
  | _ => none

def ofMatch (kind : FactKind) (name : Payload → Option String) (m : Pattern.Match)
    (payload : Except Error Payload) : Fact ⊕ DroppedFact :=
  match payload with
  | .ok payload => .inl
    { kind, payload
      displayName := name payload
      tagsText := groupText m "tags"
      spot := some ⟨m.start, m.byteStart⟩
      text := m.text }
  | .error error => .inr { kind, offset := some m.start, text := m.text, error }

/-- Keep facts and dropped pieces apart, each in order. -/
def ofList (found : List (Fact ⊕ DroppedFact)) : Extraction :=
  { facts := found.filterMap Sum.getLeft?
    dropped := found.filterMap Sum.getRight? }

/-- The place of a match with the groups `lat` and `lng`. -/
def placeOf (m : Pattern.Match) : Except Error Payload :=
  match LatLng.read (m.group "lat") (m.group "lng") with
  | .ok p => .ok (.place p)
  | .error fault => .error fault.toError

/-- The geometry of a match with the group `payload`. -/
def geometryOf (m : Pattern.Match) : Except Error Payload :=
  match GeoDocument.read (String.ofList (m.group "payload")) with
  | .ok d => .ok (.geometry d)
  | .error fault => .error fault.toError

/-- The name that a geometry brings along. -/
def payloadName : Payload → Option String
  | .geometry d => d.name?
  | .place _ => none

/-- The places in one of the two text notations. -/
def places (kind : FactKind) (p : Pattern) (text : List Char) : Extraction :=
  ofList ((p.occurrences text).map fun m =>
    ofMatch kind (fun _ => groupText m "name") m (placeOf m))

def geometries (text : List Char) : Extraction :=
  ofList ((Pattern.geometryBlock.occurrences text).map fun m =>
    ofMatch .geometryBlock payloadName m (geometryOf m))

def ofFrontMatter (frontMatter : Option Json) (key : String) : Extraction :=
  match frontMatter.bind (LatLng.ofFrontMatter · key) with
  | some p =>
    ⟨[{ kind := .frontMatter, payload := .place p, displayName := none, tagsText := none
        spot := none, text := [] }], []⟩
  | none => ⟨[], []⟩

/-- The facts of a note, given its text, its front matter and the key of its place: first the places
written as code, then those written as links, then the geometries, each in text order, and at last
the place of the note. -/
def ofNote (text : List Char) (frontMatter : Option Json) (key : String) : Extraction :=
  places .legacy Pattern.legacyLocation text ++
    places .inline Pattern.inlineLocation text ++
    geometries text ++
    ofFrontMatter frontMatter key

end Extraction

end Gazetteer
