import Gazetteer.Markdown.Target
import Gazetteer.Unicode.CaseFold

/-!
# Blocks

A text as a tree of blocks. The lines are taken in one after the other, on top of a stack of open
containers: a line first continues as many of them as it can, then may open new ones, and what is
left of it starts a leaf, which takes in further lines on its own. The running text of the leaves is
cut into pieces here and read later, when all link definitions are known.
-/

namespace Gazetteer.Markdown

/-- A stretch of running text. -/
structure Leaf where
  start : Nat
  stop : Nat
  /-- The containers around it, from the outside in. -/
  containers : List Container
  inTable : Bool
  pieces : List Piece
  deriving Repr

inductive Block where
  | paragraph (leaf : Leaf)
  | heading (level : Nat) (leaf : Leaf)
  | table (cells : List Leaf)
  /-- A block whose text says nothing about the note: code, HTML, settings or a rule. -/
  | verbatim
  | quote (blocks : List Block)
  | list (tight : Bool) (items : List Block)
  | item (start stop : Nat) (blocks : List Block)
  | footnote (blocks : List Block)
  deriving Repr

/-- A text as blocks, the targets of its link definitions and the labels of its footnotes. -/
structure Document where
  blocks : List Block
  definitions : List (String × String)
  footnotes : List String
  deriving Repr

/-! ## Open containers -/

/-- An open container and its blocks so far, in reverse. -/
structure Frame where
  container : Container
  start : Nat
  blocks : List Block

/-- A text read so far. The open containers are listed from the inside out. -/
structure State where
  frames : List Frame := []
  blocks : List Block := []
  /-- Whether the line before was blank. -/
  lastBlank : Bool := false
  /-- Where the line behind an item that has only a mark so far starts. -/
  emptyItem : Option Nat := none
  /-- The link definitions, the latest first. -/
  definitions : List (String × String) := []
  footnotes : List String := []

/-- The block that an open container becomes when it is closed. -/
def Frame.close (f : Frame) (stop : Nat) : Block :=
  match f.container with
  | .quote => .quote f.blocks.reverse
  | .list tight _ => .list tight f.blocks.reverse
  | .item _ => .item f.start stop f.blocks.reverse
  | .footnote => .footnote f.blocks.reverse

namespace State

/-- The open containers from the outside in. -/
def containers (s : State) : List Container :=
  (s.frames.map (·.container)).reverse

/-- Add a block to the innermost container. -/
def add (s : State) (b : Block) : State :=
  match s.frames with
  | [] => { s with blocks := b :: s.blocks }
  | f :: fs => { s with frames := { f with blocks := b :: f.blocks } :: fs }

def close (s : State) (stop : Nat) : State :=
  match s.frames with
  | [] => s
  | f :: fs =>
    let s := { s with frames := fs }.add (f.close stop)
    match f.container with
    | .list true _ => { s with emptyItem := none }
    | _ => s

def closeMany (s : State) (stop : Nat) : Nat → State
  | 0 => s
  | n + 1 => (s.close stop).closeMany stop n

def push (s : State) (k : Container) (start : Nat) : State :=
  { s with frames := ⟨k, start, []⟩ :: s.frames }

/-- Make the list around the innermost container a loose one. -/
def loosenOuter (s : State) : State :=
  match s.frames with
  | f :: g :: fs =>
    match g.container with
    | .list _ marker => { s with frames := f :: { g with container := .list false marker } :: fs }
    | _ => s
  | _ => s

/-- An item with nothing but a mark ends at the first blank line. -/
def finishEmptyItem (s : State) : State :=
  let closed := match s.emptyItem, s.lastBlank, s.frames with
    | some stop, true, ⟨.item _, _, _⟩ :: _ => s.close stop
    | _, _, _ => s
  { closed with emptyItem := none }

/-- Close the list that is innermost, if there is one: the line is no item of it. -/
def finishList (s : State) (stop : Nat) : State :=
  let s := s.finishEmptyItem
  let s := match s.frames with
    | ⟨.list _ _, _, _⟩ :: _ => s.close stop
    | _ => s
  if s.lastBlank then { s.loosenOuter with lastBlank := false } else s

/-- Start a list, or go on with the innermost one if it has the same marker. -/
def continueList (s : State) (start : Nat) (marker : Char) : State :=
  let s := s.finishEmptyItem
  let fresh (s : State) : State :=
    let s := s.push (.list true marker) start
    { (if s.lastBlank then s.loosenOuter else s) with lastBlank := false }
  match s.frames with
  | ⟨.list tight m, first, blocks⟩ :: fs =>
    if m = marker then
      { s with
        frames := ⟨.list (tight && !s.lastBlank) m, first, blocks⟩ :: fs
        lastBlank := false }
    else fresh (s.finishList start)
  | _ :: _ => fresh (s.finishList start)
  | [] => fresh s

def takeBlank (s : State) : State :=
  match s.frames with
  | ⟨.quote, _, _⟩ :: _ => s
  | ⟨.item indent, start, blocks⟩ :: fs =>
    let indent := if s.emptyItem.isSome then 0 else indent
    { s with frames := ⟨.item indent, start, blocks⟩ :: fs, lastBlank := true }
  | _ => { s with lastBlank := true }

end State

/-! ## New containers -/

/-- Pass over the mark of a list item; gives the marker, and the indentation of the lines of the
item. -/
def Cursor.skipListMark (c : Cursor) (outer : Nat) : Option (Char × Nat × Cursor) :=
  if isRule c.rest then none
  else
    match listMark c.rest with
    | none => none
    | some (marker, _, rest) =>
      let width := c.rest.length - rest.length
      let behind := { c with rest, offset := c.offset + width, passed := c.passed + width }
      let (missing, spaced) := behind.skipColumns 1
      if missing ≠ 0 && !behind.atLineEnd then none
      else
        let indent := outer + width + 1
        if isBlankRest spaced.rest then some (marker, indent, spaced)
        else
          let (missing, deeper) := spaced.skipColumns 4
          if missing = 0 then some (marker, indent, spaced)
          else some (marker, indent + (4 - missing), deeper)

/-- Pass over the box of a task. -/
def Cursor.skipTaskMark (c : Cursor) : Cursor :=
  let inner := (c.skipColumns 3).2
  match inner.rest with
  | '[' :: x :: ']' :: y :: _ =>
    if (isGap x || x == 'x' || x == 'X') && (isGap y || isLineEnd y) then
      inner.advance.advance.advance
    else c
  | '[' :: x :: ']' :: [] =>
    if isGap x || x == 'x' || x == 'X' then inner.advance.advance.advance else c
  | _ => c

/-- Open the containers that start in a line. `none` in place of the cursor says that the line is
used up by the mark of an item. The fuel bounds the number of marks. -/
def openContainers (l : Line) : Nat → State → Cursor → State × Option Cursor
  | 0, s, c => (s, some c)
  | fuel + 1, s, c =>
    let (missing, inner) := c.skipColumns 4
    if missing = 0 then (s, some c)
    else
      match footnoteStart inner.rest with
      | some (label, rest) =>
        let s := s.finishList inner.offset
        let s := match s.frames with
          | ⟨.footnote, _, _⟩ :: _ => s.close inner.offset
          | _ => s
        let s := { s with footnotes := String.ofList label :: s.footnotes }
        openContainers l fuel (s.push .footnote inner.offset)
          (inner.restart (inner.rest.length - rest.length))
      | none =>
        match inner.skipListMark (4 - missing) with
        | some (marker, indent, behind) =>
          let s := (s.continueList inner.offset marker).push (.item indent) inner.offset
          if isBlankRest behind.rest then ({ s with emptyItem := some l.stop }, none)
          else
            let task := behind.skipTaskMark
            if isBlankRest task.rest then ({ s with emptyItem := some l.stop }, none)
            else openContainers l fuel s task
        | none =>
          match inner.skipQuoteMark with
          | some behind =>
            openContainers l fuel ((s.finishList l.start).push .quote inner.offset) behind
          | none => (s, some c)

/-! ## Leaves -/

/-- The lines behind a block of fenced code. -/
def afterFence (ks : List Container) (indent : Nat) (mark : Char) (count : Nat) :
    List Line → List Line
  | [] => []
  | l :: ls =>
    let (n, c) := enterAll ks l.cursor
    if n ≠ ks.length then l :: ls
    else
      let (missing, close) := (c.skipColumns indent).2.skipColumns (4 - indent)
      if missing ≠ 0 && closesFence mark count close.rest then ls
      else afterFence ks indent mark count ls

/-- The lines behind a block of indented code, and whether the last line of the block is blank. -/
def afterIndented (ks : List Container) (lastBlank : Bool) : List Line → Bool × List Line
  | [] => (lastBlank, [])
  | l :: ls =>
    let (n, c) := enterAll ks l.cursor
    let (missing, c) := c.skipColumns 4
    if n = ks.length && (missing == 0 || c.atLineEnd) then afterIndented ks (isBlankRest c.rest) ls
    else (lastBlank, l :: ls)

/-- The lines behind a block of HTML that lasts until a mark. `text` is the line before. -/
def afterMarked (ks : List Container) (mark : List Char) (text : List Char) :
    List Line → List Line
  | [] => []
  | l :: ls =>
    let (n, c) := enterAll ks l.cursor
    if (behind mark text).isSome || n ≠ ks.length then l :: ls
    else afterMarked ks mark c.rest ls

/-- The lines behind a block of HTML that lasts until a blank line. -/
def afterElement (ks : List Container) : List Line → List Line
  | [] => []
  | l :: ls =>
    let (n, c) := enterAll ks l.cursor
    if n ≠ ks.length || isBlankRest c.rest then l :: ls else afterElement ks ls

/-- The lines behind a block of settings. -/
def afterMetadata (ks : List Container) : List Line → List Line
  | [] => []
  | l :: ls =>
    let (n, c) := enterAll ks l.cursor
    if n ≠ ks.length then l :: ls
    else if closesMetadata c.rest then ls
    else afterMetadata ks ls

/-- Cut running text at an offset. The characters in front of it are looked up in the source. -/
def cutAt (source : Array Char) (inTable ended : Bool) (offset : Nat) (cs : List Char) :
    List Piece × List Char :=
  let back (n : Nat) : Option Char := if n ≤ offset then source[offset - n]? else none
  cut inTable ended offset (back 1) (back 2) cs

/-- Drop the backslash that ends a line: it stands for a line break. -/
def dropBackslash (pieces : List Piece) : List Piece :=
  match pieces.reverse with
  | ⟨start, stop, .text s⟩ :: before => (⟨start, stop - 1, .text s.dropLast⟩ :: before).reverse
  | _ => pieces

/-- Whether an odd number of backslashes ends a line. -/
def endsInBackslash (cs : List Char) : Bool :=
  countAt '\\' cs.reverse % 2 == 1

/-- A paragraph, or a heading that is underlined. -/
structure Gathered where
  pieces : List Piece
  stop : Nat
  level : Option Nat
  rest : List Line

/-- The paragraph that goes on at a cursor, given the lines behind. -/
def gather (source : Array Char) (ks : List Container) (l : Line) (c : Cursor) :
    List Line → Gathered
  | [] => ⟨(cutAt source false l.isEnded c.offset c.rest).1, l.stop, none, []⟩
  | l' :: ls =>
    let pieces := (cutAt source false l.isEnded c.offset c.rest).1
    let (n, c') := enterAll ks l'.cursor
    let (missing, c') := c'.skipColumns 4
    let level := if missing ≠ 0 ∧ n = ks.length then underlineLevel c'.rest else none
    if level.isSome then ⟨pieces, l'.stop, level, ls⟩
    else if (missing ≠ 0 && interruptsParagraph ks (n == ks.length) c'.rest ls) ||
        isBlankRest c'.rest then
      ⟨pieces, l'.start, none, l' :: ls⟩
    else
      let more := gather source ks l' c'.skipAll ls
      let head := if endsInBackslash c.rest then dropBackslash pieces else pieces
      { more with
        pieces := head ++ ⟨c.offset + c.rest.length, l.stop, .lineBreak⟩ :: more.pieces }

/-- The cells of a table row; the fuel bounds their number. -/
def rowCells (source : Array Char) (ks : List Container) (ended : Bool) :
    Nat → Nat → List Char → List Leaf
  | 0, _, _ => []
  | fuel + 1, offset, cs =>
    let inner := match cs with
      | '|' :: rest => rest
      | rest => rest
    let content := skipGap inner
    if content.isEmpty then []
    else
      let start := offset + (cs.length - content.length)
      let (pieces, rest) := cutAt source true ended start content
      let stop := start + (content.length - rest.length)
      ⟨offset + (cs.length - inner.length), stop, ks, true, pieces⟩ ::
        rowCells source ks ended fuel stop rest

/-- The cells of a table row, at most as many as the table has columns. -/
def row (source : Array Char) (ks : List Container) (l : Line) (c : Cursor) (columns : Nat) :
    List Leaf :=
  (rowCells source ks l.isEnded (c.rest.length + 1) c.offset c.rest).take columns

/-- The cells of the rows of a table, and the lines behind it. -/
def tableRows (source : Array Char) (ks : List Container) (columns : Nat) :
    List Line → List Leaf × List Line
  | [] => ([], [])
  | l :: ls =>
    let (n, c) := enterAll ks l.cursor
    let c := c.skipAll
    if n ≠ ks.length || interrupts true true c.rest ls then ([], l :: ls)
    else
      let (cells, rest) := tableRows source ks columns ls
      (row source ks l c columns ++ cells, rest)

/-- A heading without the closing number signs, which have to stand behind a space. `cs` is the text
of the heading at an offset. -/
def trimHeading (offset : Nat) (cs : List Char) (pieces : List Piece) : List Piece :=
  let body := (cs.reverse.dropWhile (· == ' ')).reverse
  let opened := (body.reverse.dropWhile (· == '#')).reverse
  let limit :=
    if opened.isEmpty then 0
    else if opened.getLast? == some ' ' then ((opened.reverse.dropWhile (· == ' ')).reverse).length
    else body.length
  match pieces.reverse with
  | ⟨start, _, .text _⟩ :: before =>
    let s := (cs.take limit).drop (start - offset)
    (⟨start, start + s.length, .text s⟩ :: before).reverse
  | _ => pieces

/-- The link definition at a cursor, given the lines behind: the label, the target, and the offset
of what follows it in its last line. -/
def definitionAt (source : Array Char) (ks : List Container) (c : Cursor) (ls : List Line) :
    Option (List Char × List Char × Nat) :=
  if c.rest.head? != some '[' then none
  else
    let stop := match ls.find? fun l => isBlankRest l.text with
      | some l => l.start
      | none => source.size
    let newline (cs : List Char) : Option (List Char) :=
      let line := cs.takeWhile fun x => !isLineEnd x
      let (n, c) := enterAll ks ⟨line, 0, 0, 0, 0⟩
      let (missing, c) := c.skipColumns 4
      let current := n == ks.length
      if missing ≠ 0 && (interruptsParagraph ks current c.rest [] ||
          (current && (underlineLevel c.rest).isSome)) then none
      else some (cs.drop (line.length - c.rest.length))
    let text := (source.extract c.offset stop).toList
    match readDefinition newline text with
    | none => none
    | some (label, target, rest) => some (label, target, stop - rest.length)

/-- The form in which labels are compared. -/
def foldLabel (cs : List Char) : String :=
  String.ofList (Unicode.foldCase (Unicode.trim cs))

/-! ## Lines -/

/-- Take in the leaf that starts at a cursor. -/
def takeLeaf (source : Array Char) (s : State) (l : Line) (c : Cursor) (ls : List Line) :
    State × List Line :=
  let ks := s.containers
  let (missing, inner) := c.skipColumns 4
  if missing = 0 then
    let (lastBlank, rest) := afterIndented ks false ls
    ({ s.add .verbatim with lastBlank }, rest)
  else if missing = 4 && startsMetadata inner.rest ls then
    (s.add .verbatim, afterMetadata ks ls)
  else
    let html := match inner.rest with
      | '<' :: rest =>
        match blockEndMark rest with
        | some mark => some (afterMarked ks mark.toList inner.rest ls)
        | none =>
          if startsBlockElement rest || isTagAlone rest then some (afterElement ks ls) else none
      | _ => none
    match html with
    | some rest => (s.add .verbatim, rest)
    | none =>
      if isRule inner.rest then (s.add .verbatim, ls)
      else
        match headingLevel inner.rest with
        | some level =>
          let marked := inner.rest.drop level
          let text := skipGap marked
          let offset := inner.offset + (inner.rest.length - text.length)
          let pieces := trimHeading offset text (cutAt source false l.isEnded offset text).1
          (s.add (.heading level ⟨inner.offset, l.stop, ks, false, pieces⟩), ls)
        | none =>
          match codeFence inner.rest with
          | some (mark, count) => (s.add .verbatim, afterFence ks (4 - missing) mark count ls)
          | none =>
            match definitionAt source ks inner ls with
            | some (label, target, stop) =>
              ({ s with definitions := (foldLabel label, String.ofList target) :: s.definitions },
                ls.dropWhile fun l => decide (l.start < stop))
            | none =>
              let columns := if l.isEnded then startsTable ks inner.rest ls else none
              match columns with
              | some columns =>
                let (cells, rest) := tableRows source ks columns (ls.drop 1)
                (s.add (.table (row source ks l inner columns ++ cells)), rest)
              | none =>
                let g := gather source ks l inner ls
                let leaf : Leaf := ⟨inner.offset, g.stop, ks, false, g.pieces⟩
                (s.add (match g.level with
                  | some level => .heading level leaf
                  | none => .paragraph leaf), g.rest)

/-- Take in a line, and the lines behind it that belong to the same leaf. -/
def takeLine (source : Array Char) (s : State) (l : Line) (ls : List Line) : State × List Line :=
  let (n, c) := enterAll s.containers l.cursor
  let s := s.closeMany l.start (s.frames.length - n)
  let (s, rest) := openContainers l (c.rest.length + 1) s c
  match rest with
  | none => (s, ls)
  | some c =>
    if isBlankRest c.rest then (s.takeBlank, ls)
    else takeLeaf source (s.finishList l.start) l c ls

/-- Take in lines; every step uses up at least one. -/
def takeLines (source : Array Char) : Nat → State → List Line → State
  | fuel + 1, s, l :: ls =>
    let (s, rest) := takeLine source s l ls
    takeLines source fuel s rest
  | _, s, _ => s

def Document.ofText (source : Array Char) : Document :=
  let ls := lines source.toList
  let s := takeLines source ls.length {} ls
  let s := s.closeMany source.size s.frames.length
  ⟨s.blocks.reverse, s.definitions.reverse, s.footnotes⟩

end Gazetteer.Markdown
