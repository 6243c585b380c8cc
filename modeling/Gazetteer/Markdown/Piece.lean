import Gazetteer.Markdown.Entity
import Gazetteer.Markdown.Line
import Gazetteer.Unicode.Blank
import Gazetteer.Unicode.Punctuation

/-!
# Pieces of a line

The first step of reading running text: a line is cut into plain text and the marks that may mean
something once the whole paragraph is known, such as brackets and runs of stars. A backslash takes
its meaning from the punctuation character behind it and ends the text in front of it.
-/

namespace Gazetteer.Markdown

open Gazetteer.Unicode (isBlank isPunctuation isAsciiPunctuation)

/-- What a piece of a line is. -/
inductive Mark where
  | text (s : List Char)
  /-- A run of delimiters of emphasis, and whether emphasis can start and end with it. -/
  | delimiter (c : Char) (count : Nat) (canOpen canClose : Bool)
  /-- A run of code marks; the first of them may be escaped. -/
  | code (count : Nat) (escaped : Bool)
  /-- An opening angle bracket. -/
  | angle
  /-- An exclamation mark and an opening bracket. -/
  | image
  | opening
  /-- A closing bracket, and whether a reference can still end with it. -/
  | closing (mayRefer : Bool)
  /-- A character reference. -/
  | entity (s : List Char)
  | lineBreak
  deriving DecidableEq, Repr

/-- A piece between two offsets of the text. -/
structure Piece where
  start : Nat
  stop : Nat
  mark : Mark
  deriving DecidableEq, Repr

/-! ## Runs of delimiters -/

/-- What stands around a run of delimiters. -/
structure Surroundings where
  inTable : Bool
  /-- The character in front of the run and the one before that. -/
  before : Option Char
  before2 : Option Char
  /-- The character behind the run, which may be a line end. -/
  after : Option Char

/-- Whether the run stands at the left edge of a table cell. -/
def Surroundings.atCellStart (s : Surroundings) : Bool :=
  s.inTable && s.before == some '|' && s.before2 != some '\\'

/-- Whether the run stands at the right edge of a table cell. -/
def Surroundings.atCellEnd (s : Surroundings) : Bool :=
  s.inTable && s.after == some '|'

/-- Whether emphasis can start with a run. -/
def canOpen (c : Char) (count : Nat) (s : Surroundings) : Bool :=
  match s.after with
  | none => false
  | some after =>
    if isBlank after then false
    else
      match s.before with
      | none => true
      | some before =>
        if s.atCellStart then true
        else if s.atCellEnd then false
        else
          (c == '*' && !isPunctuation after) ||
            (c == '~' && decide (1 < count)) ||
            (c == '~' && before == '~' && !isPunctuation after) ||
            isBlank before || isPunctuation before

/-- Whether emphasis can end with a run. -/
def canClose (c : Char) (count : Nat) (s : Surroundings) : Bool :=
  match s.before with
  | none => false
  | some before =>
    if isBlank before then false
    else
      match s.after with
      | none => true
      | some after =>
        if s.atCellStart then false
        else if s.atCellEnd then true
        else
          ((c == '*' || (c == '~' && decide (1 < count))) && !isPunctuation before) ||
            (c == '~' && before == '~') ||
            isBlank after || isPunctuation after

/-! ## Cutting -/

/-- A line cut so far: the finished pieces in reverse, and the text that is not finished, in reverse
too. -/
structure Cut where
  pieces : List Piece := []
  begun : Nat
  text : List Char := []

namespace Cut

def flush (k : Cut) : Cut :=
  match k.text with
  | [] => k
  | text =>
    ⟨⟨k.begun, k.begun + text.length, .text text.reverse⟩ :: k.pieces, k.begun + text.length, []⟩

/-- Add a mark of `n` characters at an offset. -/
def mark (k : Cut) (offset n : Nat) (m : Mark) : Cut :=
  let k := k.flush
  ⟨⟨offset, offset + n, m⟩ :: k.pieces, offset + n, []⟩

/-- Add a character to the open text. -/
def push (k : Cut) (offset : Nat) (c : Char) : Cut :=
  match k.text with
  | [] => { k with begun := offset, text := [c] }
  | text => { k with text := c :: text }

/-- The pieces in order, without the gap at the end. -/
def finish (k : Cut) : List Piece :=
  ({ k with text := k.text.dropWhile isGap }).flush.pieces.reverse

end Cut

/-- Where a cut stands in its line. -/
structure Position where
  offset : Nat
  /-- The characters in front, the nearest first. -/
  before : Option Char
  before2 : Option Char
  /-- How many characters belong to a mark that was found already. -/
  skip : Nat := 0
  /-- How many characters after those are plain text whatever they are. -/
  plain : Nat := 0

def codeMark : Char := Char.ofNat 0x60

/-- Cut a line, given whether it is a row of a table and whether a line end follows. In a table the
cut stops in front of the next bar. -/
def cutFrom (inTable ended : Bool) (p : Position) (k : Cut) : List Char → List Piece × List Char
  | [] => (k.finish, [])
  | c :: cs =>
    let next (skip plain : Nat) : Position := ⟨p.offset + 1, some c, p.before, skip, plain⟩
    if 0 < p.skip then cutFrom inTable ended (next (p.skip - 1) p.plain) k cs
    else if 0 < p.plain then cutFrom inTable ended (next 0 (p.plain - 1)) (k.push p.offset c) cs
    else if c = '\\' then
      match cs with
      | d :: more =>
        if isAsciiPunctuation d then
          if d = codeMark then
            let count := countAt codeMark cs
            cutFrom inTable ended (next count 0) (k.mark (p.offset + 1) count (.code count true)) cs
          else if inTable && d == '\\' && more.head? == some '|' then
            cutFrom inTable ended (next 1 1) k.flush cs
          else cutFrom inTable ended (next 0 1) k.flush cs
        else cutFrom inTable ended (next 0 0) (k.push p.offset c) cs
      | [] => cutFrom inTable ended (next 0 0) (k.push p.offset c) cs
    else if c = '*' ∨ c = '_' ∨ c = '~' then
      let more := countAt c cs
      let after := match cs.drop more with
        | a :: _ => some a
        | [] => if ended then some '\n' else none
      let s : Surroundings := ⟨inTable, p.before, p.before2, after⟩
      let opens := canOpen c (more + 1) s
      let closes := canClose c (more + 1) s
      if (opens || closes) && (c != '~' || decide (more + 1 ≤ 2)) then
        cutFrom inTable ended (next more 0)
          (k.mark p.offset (more + 1) (.delimiter c (more + 1) opens closes)) cs
      else cutFrom inTable ended (next 0 more) (k.push p.offset c) cs
    else if c = codeMark then
      let more := countAt c cs
      cutFrom inTable ended (next more 0) (k.mark p.offset (more + 1) (.code (more + 1) false)) cs
    else if c = '<' && cs.head? != some '\\' then
      cutFrom inTable ended (next 0 0) (k.mark p.offset 1 .angle) cs
    else if c = '!' && cs.head? == some '[' then
      cutFrom inTable ended (next 1 0) (k.mark p.offset 2 .image) cs
    else if c = '[' then cutFrom inTable ended (next 0 0) (k.mark p.offset 1 .opening) cs
    else if c = ']' then cutFrom inTable ended (next 0 0) (k.mark p.offset 1 (.closing true)) cs
    else if c = '|' && inTable then (k.finish, c :: cs)
    else if c = '&' then
      match readEntity cs with
      | some (value, rest) =>
        let n := cs.length - rest.length
        cutFrom inTable ended (next n 0) (k.mark p.offset (n + 1) (.entity value)) cs
      | none => cutFrom inTable ended (next 0 0) (k.push p.offset c) cs
    else cutFrom inTable ended (next 0 0) (k.push p.offset c) cs

/-- Cut a piece of running text at an offset, given the two characters in front of it. -/
def cut (inTable ended : Bool) (offset : Nat) (before before2 : Option Char) (cs : List Char) :
    List Piece × List Char :=
  cutFrom inTable ended ⟨offset, before, before2, 0, 0⟩ ⟨[], offset, []⟩ cs

/-- The offset of the first bar behind the text in front of it, and how many bars there are, not
counting escaped ones. `offset` is the offset of the list, `last` that of the last bar so far. -/
def countBars (offset count last : Nat) : List Char → Nat × Nat
  | [] => (count, last)
  | '\\' :: d :: cs =>
    if isAsciiPunctuation d then countBars (offset + 2) count last cs
    else countBars (offset + 1) count last (d :: cs)
  | '|' :: cs => countBars (offset + 1) (count + 1) offset cs
  | _ :: cs => countBars (offset + 1) count last cs

end Gazetteer.Markdown
