import Gazetteer.Markdown.Html
import Gazetteer.Markdown.Piece

/-!
# Marks at the start of a line

What makes a line the start of a block, a continuation of an open container, or the end of a
paragraph that would otherwise go on.
-/

namespace Gazetteer.Markdown

/-! ## Containers -/

/-- A block that holds other blocks. -/
inductive Container where
  | quote
  /-- A list is loose once a blank line separates two of its blocks. -/
  | list (tight : Bool) (marker : Char)
  /-- A list item, whose lines are indented. -/
  | item (indent : Nat)
  | footnote
  deriving DecidableEq, Repr

/-- Pass over the mark of a quote. -/
def Cursor.skipQuoteMark (c : Cursor) : Option Cursor :=
  match c.rest with
  | '>' :: _ => some (c.advance.skipColumns 1).2
  | _ => none

/-- Pass over an indentation, which a blank line may lack. -/
def Cursor.skipIndent (indent : Nat) (c : Cursor) : Option Cursor :=
  let (missing, c) := c.skipColumns indent
  if missing = 0 || c.atLineEnd then some c else none

/-- Pass over what a line in a container starts with. -/
def Container.enter (k : Container) (c : Cursor) : Option Cursor :=
  match k with
  | .quote => (c.skipColumns 3).2.skipQuoteMark
  | .list _ _ => some c
  | .item indent => c.skipIndent indent
  | .footnote => c.skipIndent 4

/-- How many of the open containers a line continues, from the outside in, and what is left of the
line. -/
def enterAll : List Container → Cursor → Nat × Cursor
  | [], c => (0, c)
  | k :: ks, c =>
    match k.enter c with
    | none => (0, c)
    | some c =>
      let (n, c) := enterAll ks c
      (n + 1, c)

/-- The text of a line behind the marks of its containers. -/
def skipContainers (ks : List Container) (cs : List Char) : List Char :=
  (enterAll ks ⟨cs, 0, 0, 0, 0⟩).2.rest

/-! ## Leaf marks -/

/-- A line of at least three stars, hyphens or underscores. -/
def isRule (cs : List Char) : Bool :=
  match cs with
  | [] => false
  | c :: _ =>
    (c == '*' || c == '-' || c == '_') &&
      cs.all (fun x => x == c || x == ' ' || x == '\t') && decide (3 ≤ cs.count c)

/-- The level of a heading that is marked by number signs. -/
def headingLevel (cs : List Char) : Option Nat :=
  let level := countAt '#' cs
  let ends := match cs.drop level with
    | [] => true
    | c :: _ => isSpace c
  if decide (1 ≤ level) && decide (level ≤ 6) && ends then some level else none

/-- The level of a heading that this line underlines. -/
def underlineLevel (cs : List Char) : Option Nat :=
  match cs with
  | '=' :: rest => if isBlankRest (rest.dropWhile (· == '=')) then some 1 else none
  | '-' :: rest => if isBlankRest (rest.dropWhile (· == '-')) then some 2 else none
  | _ => none

/-- The mark of a code fence and its length. -/
def codeFence (cs : List Char) : Option (Char × Nat) :=
  match cs with
  | [] => none
  | c :: _ =>
    let n := countAt c cs
    if c = '~' ∧ 3 ≤ n then some (c, n)
    else if c = codeMark ∧ 3 ≤ n ∧ !(cs.drop n).contains codeMark then some (c, n)
    else none

/-- Whether a line closes a code fence of `n` marks. -/
def closesFence (c : Char) (n : Nat) (cs : List Char) : Bool :=
  decide (n ≤ countAt c cs) && (cs.dropWhile (· == c)).all (· == ' ')

/-- Whether a line closes a block of settings. -/
def closesMetadata (cs : List Char) : Bool :=
  (countAt '-' cs == 3 || countAt '.' cs == 3) && (cs.drop 3).all (· == ' ')

/-- Whether a block of settings starts with a line, given the lines behind it: three hyphens, a line
that is neither blank nor the end, and an end. -/
def startsMetadata (cs : List Char) (following : List Line) : Bool :=
  countAt '-' cs == 3 && (cs.drop 3).all isSpace &&
    match following with
    | [] => false
    | l :: ls =>
      !closesMetadata l.text && !isBlankRest l.text && ls.any fun l => closesMetadata l.text

/-- The mark of a list item without what follows it, and the number of an ordered one. -/
def listMark (cs : List Char) : Option (Char × Nat × List Char) :=
  match cs with
  | [] => none
  | c :: rest =>
    if c = '-' ∨ c = '+' ∨ c = '*' then some (c, 0, rest)
    else
      let ds := (cs.takeWhile Char.isDigit).take 9
      match ds, cs.drop ds.length with
      | _ :: _, d :: rest =>
        if d = '.' ∨ d = ')' then
          some (d, ds.foldl (fun n x => 10 * n + (x.toNat - '0'.toNat)) 0, rest)
        else none
      | _, _ => none

/-- Whether a list item that starts with this line ends a paragraph: it must not be empty, and an
ordered one must have the number one. -/
def listInterrupts (cs : List Char) (following : List Line) (freely : Bool) : Bool :=
  match listMark cs with
  | none => false
  | some (c, number, rest) =>
    let spaced := match rest with
      | [] => true
      | x :: _ => x == ' ' || x == '\t' || isLineEnd x
    let empty := isBlankRest rest && (match following with
      | [] => true
      | l :: _ => isBlankRest l.text)
    spaced && (freely || ((c == '-' || c == '+' || c == '*' || number == 1) && !empty))

/-! ## Labels -/

/-- Read a label behind its opening bracket: its text with white space collapsed, and what follows
the closing bracket. A line end is passed with `newline`, which takes what stands behind it.
`budget` bounds the length. -/
def readLabelFrom (newline : List Char → Option (List Char)) (acc : List Char) (blank : Bool) :
    Nat → List Char → Option (List Char × List Char)
  | 0, _ => none
  | _ + 1, [] => none
  | budget + 1, c :: cs =>
    if c = '[' then none
    else if c = ']' then if blank then none else some (acc.reverse, cs)
    else if c = '\\' then
      match cs with
      | d :: cs => readLabelFrom newline (d :: c :: acc) false budget cs
      | [] => none
    else if isGap c then
      readLabelFrom newline (if acc.head? == some ' ' then acc else ' ' :: acc) blank budget cs
    else if isLineEnd c then
      let cs := if c = '\r' ∧ cs.head? = some '\n' then cs.drop 1 else cs
      match newline cs with
      | none => none
      | some cs =>
        if isBlankRest cs then none
        else
          readLabelFrom newline (if acc.head? == some ' ' then acc else ' ' :: acc) blank budget cs
    else readLabelFrom newline (c :: acc) false budget cs

/-- Read a label behind its opening bracket. -/
def readLabel (newline : List Char → Option (List Char)) (cs : List Char) :
    Option (List Char × List Char) :=
  readLabelFrom newline [] true 1000 cs

/-- Read the label of a footnote, which stays in its line, and pass over its brackets. -/
def readFootnoteLabel (cs : List Char) : Option (List Char × List Char) :=
  match cs with
  | '[' :: '^' :: rest => readLabel (fun _ => none) rest
  | _ => none

/-- The label of the footnote that is defined from here on, and the text behind the colon. -/
def footnoteStart (cs : List Char) : Option (List Char × List Char) :=
  match readFootnoteLabel cs with
  | some (label, ':' :: rest) => some (label, skipGap rest)
  | _ => none

/-! ## Tables -/

/-- The state of reading the line under a table head. -/
structure Underline where
  columns : Nat := 0
  /-- Whether the column at hand has started. -/
  started : Bool := false
  hyphen : Bool := false
  anyHyphen : Bool := false
  anyBar : Bool := false

/-- Take in one character of the line under a table head. -/
def Underline.step (u : Underline) (c : Char) : Option Underline :=
  if c = ' ' then some u
  else if c = ':' then some { u with started := true }
  else if c = '-' then some { u with started := true, hyphen := true, anyHyphen := true }
  else if c = '|' then
    if u.hyphen then
      some { u with columns := u.columns + 1, started := false, hyphen := false, anyBar := true }
    else none
  else none

/-- The number of columns of a table whose head is underlined by this line. -/
def tableColumns (c : Cursor) : Option Nat :=
  let (missing, c) := c.skipColumns 4
  if missing = 0 then none
  else
    let line := c.rest.takeWhile fun x => !isLineEnd x
    let (bar, body) := match line with
      | '|' :: rest => (true, rest)
      | rest => (false, rest)
    match body.foldlM Underline.step { anyBar := bar } with
    | none => none
    | some u =>
      if u.anyBar && u.anyHyphen then some (u.columns + if u.started then 1 else 0) else none

/-- The number of columns of a table head. -/
def headColumns (cs : List Char) : Nat :=
  let (bars, last) := countBars 0 0 0 cs
  let inner := if (skipGap cs).head? == some '|' then bars - 1 else bars
  if isBlankRest (cs.drop (last + 1)) then inner else inner + 1

/-- Whether a table starts with a line that has bars, given the lines behind it. -/
def startsTable (ks : List Container) (cs : List Char) (following : List Line) : Option Nat :=
  match following with
  | [] => none
  | l :: _ =>
    let (n, c) := enterAll ks l.cursor
    if (countBars 0 0 0 cs).1 = 0 || n ≠ ks.length then none
    else (tableColumns c).filter (· == headColumns cs)

/-! ## Interruptions -/

/-- Whether a line ends the paragraph or table in front of it. `current` says whether it continues
all open containers. -/
def interrupts (current inTable : Bool) (cs : List Char) (following : List Line) : Bool :=
  (match cs with
    | [] => true
    | c :: _ => isLineEnd c || c == '>') ||
  isRule cs || (headingLevel cs).isSome || (codeFence cs).isSome ||
  listInterrupts cs following (!current || inTable) ||
  (match cs with
    | '<' :: rest => (blockEndMark rest).isSome || startsBlockElement rest
    | _ => false) ||
  (footnoteStart cs).isSome

/-- Whether a line ends the paragraph in front of it; a table whose head starts with a bar does so
too. -/
def interruptsParagraph (ks : List Container) (current : Bool) (cs : List Char)
    (following : List Line) : Bool :=
  interrupts current false cs following ||
    (cs.head? == some '|' && (startsTable ks cs following).isSome)

end Gazetteer.Markdown
