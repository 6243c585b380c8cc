/-!
# Lines

Lines are counted from zero and end behind their line feed. `lineFeedsBefore` says on which line a
byte of a text lies by counting; `LineTable.lineOf` says the same by searching a table of the bytes
where lines start, which is quicker when there are many of them to look up in one text.
-/

namespace Gazetteer.Text

/-- The lines of a text, each with its line feed. -/
def lines : List Char → List (List Char)
  | [] => []
  | c :: cs =>
    if c = '\n' then [c] :: lines cs
    else
      match lines cs with
      | [] => [[c]]
      | l :: ls => (c :: l) :: ls

/-- The lines of a text, one after the other, are the text. -/
@[simp] theorem flatten_lines (cs : List Char) : (lines cs).flatten = cs := by
  induction cs with
  | nil => rfl
  | cons c cs ih =>
    simp only [lines]
    split
    · simp [ih]
    · split
      · rename_i h
        rw [h] at ih
        simp [← ih]
      · rename_i h
        rw [h] at ih
        simp [← ih]

/-- A line without its line feed and the carriage return in front of it. -/
def lineContent (line : List Char) : List Char :=
  match line.reverse with
  | '\n' :: '\r' :: rest | '\n' :: rest => rest.reverse
  | _ => line

/-- The number of line feeds among the bytes in front of an offset, which is the line of the
offset. -/
def lineFeedsBefore (cs : List Char) (offset : Nat) : Nat :=
  ((cs.flatMap String.utf8EncodeChar).take offset).count 0x0A

/-- The bytes behind the line feeds of a text that starts at byte `pos`. -/
def startsFrom (pos : Nat) : List Char → List Nat
  | [] => []
  | c :: cs =>
    let next := pos + c.utf8Size
    if c = '\n' then next :: startsFrom next cs else startsFrom next cs

/-- The bytes where the lines of a text start, in order; the first one is the start of the text. -/
structure LineTable where
  starts : Array Nat

namespace LineTable

def ofText (cs : List Char) : LineTable :=
  ⟨(0 :: startsFrom 0 cs).toArray⟩

/-- What looking for a byte among the starts of lines comes to. -/
inductive Search where
  /-- A line starts at the byte. -/
  | hit (line : Nat)
  /-- No line does; one that did would be the line `next`. -/
  | miss (next : Nat)
  deriving DecidableEq, Repr

/-- The last of `size` lines, from `base` on, that starts at or in front of an offset, or `base` if
none does. Each step halves what is left. -/
def narrow (starts : Array Nat) (offset base size : Nat) : Nat :=
  if 1 < size then
    let half := size / 2
    let mid := base + half
    narrow starts offset (if starts.getD mid 0 ≤ offset then mid else base) (size - half)
  else base
  termination_by size

def search (t : LineTable) (offset : Nat) : Search :=
  let base := narrow t.starts offset 0 t.starts.size
  match t.starts[base]? with
  | none => .miss base
  | some start =>
    if start = offset then .hit base else .miss (if start < offset then base + 1 else base)

/-- The line of an offset: the one that starts there, or the one in front of the first line that
starts behind it. -/
def lineOf (t : LineTable) (offset : Nat) : Nat :=
  match t.search offset with
  | .hit line => line
  | .miss next => next - 1

end LineTable

end Gazetteer.Text
