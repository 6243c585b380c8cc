import Gazetteer.Markdown.Inline
import Gazetteer.Note.FrontMatter
import Gazetteer.Text.Search

/-!
# Notes

A note is read once. What the rest of the library wants to know about it is kept beside its text:
the properties, the outline and the tags.
-/

namespace Gazetteer

/-- A note and what is known about it. -/
structure Note where
  text : String
  /-- The properties, if they are a mapping. -/
  frontMatter : Option Json
  outline : Outline
  /-- The tags of properties and text, each once, each with `#` in front. -/
  tags : List String

namespace Note

/-! ## Links -/

/-- Whether the file part of a link leads out of the notes: it has a scheme, or a colon in its first
component. -/
def leavesNotes (file : List Char) : Bool :=
  Text.occursIn [':', '/', '/'] file || (file.takeWhile (· != '/')).contains ':'

/-- The reference that a link with a target and a shown text is. A wiki link that shows its target
shows nothing of its own. -/
def linkRef (target : List Char) (wiki : Bool) (line : Nat) (shown : List Char) : Option LinkRef :=
  let target := Unicode.trim target
  let shown := Unicode.trim shown
  if target.isEmpty || leavesNotes (LinkPath.ofList target).file then none
  else some
    { link := String.ofList target
      displayText :=
        if !shown.isEmpty && (!wiki || shown != target) then some (String.ofList shown) else none
      line := some line }

/-! ## Blocks -/

/-- The line of a block that may carry its id: the first of a list item, the last of a paragraph
that is not blank. -/
def idLine (ofItem : Bool) (slice : List Char) : Option (List Char) :=
  let ls := (Text.lines slice).map Text.lineContent
  if ofItem then ls.head? else ls.reverse.find? fun l => !l.all Unicode.isBlank

/-- The block between two bytes, if it carries an id. -/
def blockOf (lineOf : Nat → Nat) (ofItem : Bool) (slice : List Char) (start stop : Nat) :
    Option Block :=
  ((idLine ofItem slice).bind Pattern.blockId.find?).map fun m =>
    { id := String.ofList (m.group "id")
      startLine := lineOf start
      endLine := lineOf (if start < stop then stop - 1 else start) }

/-! ## Reading the structure -/

/-- An open heading: its level, its line and its text so far. -/
structure OpenHeading where
  level : Nat
  line : Nat
  title : List Char

/-- An open link: its target, its line and its text so far. -/
structure OpenLink where
  target : List Char
  wiki : Bool
  line : Nat
  title : List Char

/-- What was found in the part of a text that was read, the latest first. -/
structure Findings where
  headings : List Heading := []
  blocks : List Block := []
  links : List LinkRef := []
  tags : List String := []
  openHeading : Option OpenHeading := none
  openLink : Option OpenLink := none

namespace Findings

/-- A heading without the block id at its end. -/
def headingText (title : List Char) : List Char :=
  let title := Unicode.trim title
  match Pattern.blockId.find? title with
  | some m => Unicode.trim (title.take m.start ++ title.drop (m.start + m.text.length))
  | none => title

/-- Text belongs to the heading and to the link that are open. -/
def addText (f : Findings) (s : List Char) : Findings :=
  { f with
    openHeading := f.openHeading.map fun h => { h with title := h.title ++ s }
    openLink := f.openLink.map fun l => { l with title := l.title ++ s } }

/-- One more block, unless there is one with the same id. -/
def addBlock (f : Findings) (block : Option Block) : Findings :=
  match block with
  | some b =>
    if f.blocks.any fun other => other.id == b.id then f else { f with blocks := b :: f.blocks }
  | none => f

/-- What was found, after one more event. Events count in characters and lines are known by their
bytes. -/
def step (source : Array Char) (byteOf lineOf : Nat → Nat) (f : Findings) :
    Markdown.Event → Findings
  | .openHeading level start => { f with openHeading := some ⟨level, lineOf (byteOf start), []⟩ }
  | .closeHeading =>
    match f.openHeading with
    | some h => { f with
        openHeading := none
        headings := ⟨String.ofList (headingText h.title), h.level, h.line⟩ :: f.headings }
    | none => f
  | .openLink target start =>
    { f with openLink := some ⟨target.text, target.isWiki, lineOf (byteOf start), []⟩ }
  | .closeLink =>
    match f.openLink with
    | some l => { f with
        openLink := none
        links := (linkRef l.target l.wiki l.line l.title).toList ++ f.links }
    | none => f
  | .paragraph start stop =>
    f.addBlock
      (blockOf lineOf false (source.extract start stop).toList (byteOf start) (byteOf stop))
  | .item start stop =>
    f.addBlock
      (blockOf lineOf true (source.extract start stop).toList (byteOf start) (byteOf stop))
  | .text s =>
    let tags := (Pattern.bodyTag.occurrences s).map fun m => String.ofList ('#' :: m.group "tag")
    { f.addText s with tags := tags.reverse ++ f.tags }
  | .code s => f.addText s

end Findings

def ofText (text : String) : Note :=
  let cs := text.toList
  let source := cs.toArray
  let bytes := Text.ByteTable.ofText cs
  let lines := Text.LineTable.ofText cs
  let found :=
    (Markdown.events source).foldl (Findings.step source bytes.byteOf lines.lineOf) {}
  let frontMatter := FrontMatter.read cs
  { text, frontMatter
    outline :=
      { headings := found.headings.reverse
        blocks := found.blocks.reverse
        links := found.links.reverse
        frontMatterLinks := (frontMatter.map FrontMatter.links).getD [] }
    tags := ((frontMatter.map FrontMatter.tags).getD [] ++ found.tags.reverse).eraseDups }

end Note

end Gazetteer
