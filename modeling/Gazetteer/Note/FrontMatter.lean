import Gazetteer.Json.Writer
import Gazetteer.Note.Outline
import Gazetteer.Pattern.Note
import Gazetteer.Text.Lines
import Gazetteer.Yaml.Reader

/-!
# Front matter

A note may start with a block of properties between two fence lines. What else a note wants to know
of them is here: the links among their values, and the tags.
-/

namespace Gazetteer.FrontMatter

/-- The text behind the opening fence, if a text starts with one. -/
def afterFence : List Char → Option (List Char)
  | '-' :: '-' :: '-' :: '\n' :: rest => some rest
  | '-' :: '-' :: '-' :: '\r' :: '\n' :: rest => some rest
  | _ => none

/-- A line that ends the properties: three hyphens or three dots. -/
def isFence (line : List Char) : Bool :=
  let content := Unicode.trimEnd line
  content == ['-', '-', '-'] || content == ['.', '.', '.']

/-- The lines in front of the first fence, if there is one. -/
def untilFence : List (List Char) → Option (List Char)
  | [] => none
  | line :: ls => if isFence line then some [] else (untilFence ls).map (line ++ ·)

/-- The text of the properties of a note, if it has properties. -/
def split (text : List Char) : Option (List Char) :=
  (afterFence text).bind fun rest => untilFence (Text.lines rest)

/-- The properties of a note; properties that cannot be read, or are no mapping, count for
nothing. -/
def read (text : List Char) : Option Json :=
  match split text with
  | some yaml =>
    if yaml.all Unicode.isBlank then none
    else
      match Yaml.read yaml with
      | some (.obj fields) => some (.obj fields)
      | _ => none
  | none => none

/-! ## Links -/

/-- The link that a text value is. -/
def linkOf (s : String) : Option LinkRef :=
  (Pattern.frontMatterLink.find? s.toList).map fun m =>
    { link := String.ofList (Unicode.trim (m.group "target"))
      displayText := (m.group? "alias").map (String.ofList ∘ Unicode.trim)
      line := none }

mutual

/-- The links in a value, in the order of its items and keys. -/
def links : Json → List LinkRef
  | .str s => (linkOf s).toList
  | .arr items => itemLinks items
  | .obj fields => fieldLinks fields
  | _ => []

def itemLinks : List Json → List LinkRef
  | [] => []
  | j :: js => links j ++ itemLinks js

def fieldLinks : List (String × Json) → List LinkRef
  | [] => []
  | (_, j) :: fs => links j ++ fieldLinks fs

end

/-! ## Tags -/

/-- The tags as they are written: a list of texts and numbers, or one text with commas or spaces
between them. -/
def writtenTags (properties : Json) : List (List Char) :=
  match (properties.field? "tags").or (properties.field? "tag") with
  | some (.arr items) => items.filterMap fun j =>
    match j with
    | .str s => some s.toList
    | .int _ | .num _ => some j.write.toList
    | _ => none
  | some (.str s) => s.toList.splitOnP fun c => c == ',' || c == ' '
  | _ => []

/-- The tags, each with one `#` in front. -/
def tags (properties : Json) : List String :=
  ((writtenTags properties).map fun t => (Unicode.trim t).dropWhile (· == '#')).filterMap fun t =>
    if t.isEmpty then none else some (String.ofList ('#' :: t))

end Gazetteer.FrontMatter
