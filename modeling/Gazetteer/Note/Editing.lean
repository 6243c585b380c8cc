import Gazetteer.Layer.Basic
import Gazetteer.Note.FrontMatter

/-!
# Moving places

A place moves by a change to the text of its note: reading the text again gives the place at
its new position. A place in the text is written anew where it stood; the place of a whole note is
written among its properties.
-/

namespace Gazetteer

/-- Why a place cannot be moved. -/
inductive MoveFault where
  /-- The new position is no place. -/
  | noPlace (cause : LatLng.Fault)
  /-- The marker is not written in the text. -/
  | noPosition (id : String)
  /-- The text of the marker is not where it was. -/
  | textChanged (source : SourceRef) (id : String)
  deriving DecidableEq, Repr

def MoveFault.toError : MoveFault → Error
  | .noPlace cause => cause.toError
  | .noPosition id => .custom s!"marker '{id}' has no inline position to rewrite"
  | .textChanged source id =>
    .notFound s!"source {source.path} changed since marker '{id}' was indexed"

/-- A place as a link with a name, followed by the tags. -/
def writePlace (name : String) (p : LatLng) (tags : List Char) : List Char :=
  s!"[{name}](geo:{p})".toList ++ tags

namespace Marker

/-- The tags behind a place, with a space in front, as they stand in its text. The older notation
has no tags. -/
def writtenTags (m : Marker) (raw : List Char) : List Char :=
  if m.info.factKind = some .inline then
    match (Pattern.inlineLocation.find? raw).bind (·.group? "tags") with
    | some tags => ' ' :: tags
    | none => []
  else []

/-- The text of a note with a place in it moved; its name and its tags stay. A place in the older
notation is written as a link from then on. -/
def moveIn (m : Marker) (text : List Char) (p : LatLng) : Except MoveFault (List Char) := do
  let p ← p.check.mapError MoveFault.noPlace
  match m.info.byteOffset, m.info.rawText with
  | some offset, some raw =>
    match Text.splitBytes text offset with
    | some (before, rest) =>
      match List.isPrefixOf? raw.toList rest with
      | some after =>
        let written := writePlace (m.info.displayName.getD "") p (m.writtenTags raw.toList)
        .ok (before ++ written ++ after)
      | none => .error (.textChanged m.info.source m.info.id)
    | none => .error (.textChanged m.info.source m.info.id)
  | _, _ => .error (.noPosition m.info.id)

end Marker

namespace FrontMatter

/-- The property that says where a whole note is. -/
def placeEntry (key : String) (p : LatLng) : List Char :=
  s!"{key}: [{Number.showPlain p.lat}, {Number.showPlain p.lng}]".toList

/-- A line that goes on with the value of the line in front of it. -/
def isContinuation : List Char → Bool
  | ' ' :: _ | '\t' :: _ | '-' :: _ => true
  | _ => false

/-- Write an entry in the place of the first one with its key, or behind all others. -/
def setEntry (key entry : List Char) : List (List Char) → List (List Char)
  | [] => [entry]
  | line :: ls =>
    if (key ++ [':']).isPrefixOf line then entry :: ls.dropWhile isContinuation
    else line :: setEntry key entry ls

/-- Lines, each with a line feed behind it. -/
def unlines (ls : List (List Char)) : List Char :=
  ls.flatMap (· ++ ['\n'])

/-- The text of a note with the place of the whole note moved. A note without properties gets
some. -/
def movePlace (text : List Char) (key : String) (p : LatLng) : Except MoveFault (List Char) := do
  let p ← p.check.mapError MoveFault.noPlace
  let entry := placeEntry key p
  match afterFence text, split text with
  | some rest, some properties =>
    let opening := text.take (text.length - rest.length)
    let ls := (Text.lines properties).map Text.lineContent
    return opening ++ unlines (setEntry key.toList entry ls) ++ rest.drop properties.length
  | _, _ => return unlines [['-', '-', '-'], entry, ['-', '-', '-']] ++ text

end FrontMatter

end Gazetteer
