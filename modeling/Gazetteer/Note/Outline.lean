import Gazetteer.Note.LinkPath
import Gazetteer.Note.Name

/-!
# The outline of a note

What the rest of the library needs to know about the structure of a note: its headings, the blocks
that carry an id, and the links that leave it. Lines count from zero.
-/

namespace Gazetteer

structure Heading where
  text : String
  level : Nat
  line : Nat
  deriving DecidableEq, Repr

/-- A paragraph or list item with an id. -/
structure Block where
  id : String
  startLine : Nat
  endLine : Nat
  deriving DecidableEq, Repr

/-- A link to another document or to a place in it. -/
structure LinkRef where
  /-- The target with its reference. -/
  link : String
  /-- The text shown for the link, where it says more than the target. -/
  displayText : Option String
  /-- The line of the link; links in the front matter have none. -/
  line : Option Nat
  deriving DecidableEq, Repr

def LinkRef.path (l : LinkRef) : LinkPath :=
  LinkPath.ofString l.link

/-- The heading or block that the link refers to inside its target. -/
def LinkRef.anchor (l : LinkRef) : Option String :=
  l.path.anchor

/-- What a reference into a document points at. -/
inductive AnchorTarget where
  | heading (h : Heading)
  | block (b : Block)
  deriving DecidableEq, Repr

/-- The structure of a note. -/
structure Outline where
  headings : List Heading
  blocks : List Block
  links : List LinkRef
  frontMatterLinks : List LinkRef
  deriving DecidableEq, Repr, Inhabited

namespace Outline

def empty : Outline := ⟨[], [], [], []⟩

/-- The last heading at or above a line. -/
def headingAt (o : Outline) (line : Nat) : Option Heading :=
  o.headings.reverse.find? fun h => decide (h.line ≤ line)

/-- The first block that a line belongs to. -/
def blockAt (o : Outline) (line : Nat) : Option Block :=
  o.blocks.find? fun b => decide (b.startLine ≤ line) && decide (line ≤ b.endLine)

/-- The links of the text, then those of the front matter. -/
def allLinks (o : Outline) : List LinkRef :=
  o.links ++ o.frontMatterLinks

/-- The components of a heading path that say something. -/
def anchorComponents (anchor : List Char) : List String :=
  ((anchor.splitOn '#').map String.ofList).filter fun c => !Unicode.isBlankText c

/-- Follow a heading path: each component names a heading behind the one before it. `found` is the
heading reached so far. -/
def followHeadings (found : Option Heading) : List String → List Heading → Option Heading
  | [], _ => found
  | c :: cs, hs =>
    match hs.dropWhile fun h => toAnchor h.text != toAnchor c with
    | [] => none
    | h :: rest => followHeadings (some h) cs rest

/-- What a reference points at: `^id` at the block with that id, anything else at the heading that
the path of headings leads to. -/
def resolveAnchor (o : Outline) (anchor : String) : Option AnchorTarget :=
  match (percentDecode anchor).toList with
  | '^' :: id => (o.blocks.find? fun b => b.id == String.ofList id).map .block
  | cs => (followHeadings none (anchorComponents cs) o.headings).map .heading

end Outline

end Gazetteer
