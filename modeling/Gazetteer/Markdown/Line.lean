/-!
# Lines

A text as lines that know where they start, and a `Cursor` that moves through the white space and
the container marks at the start of a line. A tab reaches to the next multiple of four columns, so a
cursor may stand in the middle of one.
-/

namespace Gazetteer.Markdown

/-- A line: the offset of its first character, its characters without the line end, and the offset
of the line behind it. -/
structure Line where
  start : Nat
  text : List Char
  stop : Nat
  deriving DecidableEq, Repr

/-- The lines of a text that starts at offset `pos`, the first one having started at `start` with
the characters `begun` in reverse. -/
def linesFrom (start pos : Nat) (begun : List Char) : List Char → List Line
  | [] => if begun.isEmpty then [] else [⟨start, begun.reverse, pos⟩]
  | '\r' :: '\n' :: cs => ⟨start, begun.reverse, pos + 2⟩ :: linesFrom (pos + 2) (pos + 2) [] cs
  | c :: cs =>
    if c = '\n' ∨ c = '\r' then
      ⟨start, begun.reverse, pos + 1⟩ :: linesFrom (pos + 1) (pos + 1) [] cs
    else linesFrom start (pos + 1) (c :: begun) cs

def lines (cs : List Char) : List Line :=
  linesFrom 0 0 [] cs

/-- Whether a line end follows; only the last line may lack it. -/
def Line.isEnded (l : Line) : Bool :=
  decide (l.start + l.text.length < l.stop)

/-! ## Characters -/

/-- White space that does not end a line. -/
def isGap (c : Char) : Bool :=
  c == ' ' || c == '\t' || c == '\x0b' || c == '\x0c'

def isLineEnd (c : Char) : Bool :=
  c == '\n' || c == '\r'

def isSpace (c : Char) : Bool :=
  isGap c || isLineEnd c

def skipGap (cs : List Char) : List Char :=
  cs.dropWhile isGap

/-- Whether nothing but a gap is left of the line. -/
def isBlankRest (cs : List Char) : Bool :=
  match skipGap cs with
  | [] => true
  | c :: _ => isLineEnd c

/-- The number of times a character stands at the start. -/
def countAt (c : Char) (cs : List Char) : Nat :=
  (cs.takeWhile (· == c)).length

/-! ## Cursors -/

/-- A place in a line: what is left of the line, its offset in the text, the number of characters
passed, that number behind the last tab, and the columns left of a tab that was passed in part. -/
structure Cursor where
  rest : List Char
  offset : Nat
  passed : Nat := 0
  tabStart : Nat := 0
  pending : Nat := 0
  deriving Repr

def Line.cursor (l : Line) : Cursor := ⟨l.text, l.start, 0, 0, 0⟩

namespace Cursor

/-- Pass over up to `want` columns of white space; also says how many were missing. -/
def skipColumnsFrom (want offset passed tabStart pending : Nat) : List Char → Nat × Cursor
  | [] => (want, ⟨[], offset, passed, tabStart, pending⟩)
  | c :: cs =>
    if want = 0 then (0, ⟨c :: cs, offset, passed, tabStart, pending⟩)
    else if c = ' ' then skipColumnsFrom (want - 1) (offset + 1) (passed + 1) tabStart pending cs
    else if c = '\t' then
      let width := 4 - (passed - tabStart) % 4
      let n := min width want
      skipColumnsFrom (want - n) (offset + 1) (passed + 1) (passed + 1) (width - n) cs
    else (want, ⟨c :: cs, offset, passed, tabStart, pending⟩)

/-- Pass over up to `want` columns of white space; also says how many were missing. -/
def skipColumns (want : Nat) (c : Cursor) : Nat × Cursor :=
  let n := min c.pending want
  skipColumnsFrom (want - n) c.offset c.passed c.tabStart (c.pending - n) c.rest

def skipAll (c : Cursor) : Cursor :=
  let n := (c.rest.takeWhile fun x => x == ' ' || x == '\t').length
  { c with rest := c.rest.drop n, offset := c.offset + n, passed := c.passed + n, pending := 0 }

def atLineEnd (c : Cursor) : Bool :=
  match c.rest with
  | [] => true
  | x :: _ => isLineEnd x

def advance (c : Cursor) : Cursor :=
  { c with rest := c.rest.drop 1, offset := c.offset + 1, passed := c.passed + 1 }

/-- Pass over `n` characters and count tabs anew from here. -/
def restart (c : Cursor) (n : Nat) : Cursor :=
  ⟨c.rest.drop n, c.offset + n, 0, 0, 0⟩

end Cursor

end Gazetteer.Markdown
