import Gazetteer.Text.Utf8

/-!
# Text patterns

A `Pattern` describes pieces of text and names parts of them. Matching is *ordered*: of several ways
to match at one place the first one counts, where a choice prefers its left side, a greedy
repetition one more round and a lazy one no more rounds. `Pattern.run` searches the ways in that
order and goes back to the next one when the rest of the pattern fails; `Pattern.occurrences` lists
the successive matches in a text, each the leftmost behind the one before it.
-/

namespace Gazetteer

inductive Pattern where
  /-- The empty text. -/
  | empty
  /-- One character that passes a test. -/
  | char (test : Char → Bool)
  /-- One pattern after the other. -/
  | seq (p q : Pattern)
  /-- The left pattern or, if the match fails with it, the right one. -/
  | alt (p q : Pattern)
  /-- Any number of rounds, as many as possible or, if lazy, as few as possible. -/
  | star (lazily : Bool) (p : Pattern)
  /-- A part that can be asked for by name. -/
  | group (name : String) (p : Pattern)
  /-- The empty text at the start of the whole text. -/
  | atStart
  /-- The empty text at the end of the whole text. -/
  | atEnd

namespace Pattern

/-! ## Derived forms -/

def all : List Pattern → Pattern
  | [] => .empty
  | [p] => p
  | p :: ps => .seq p (all ps)

def lit (s : String) : Pattern :=
  all (s.toList.map fun c => .char (· == c))

def opt (p : Pattern) : Pattern :=
  .alt p .empty

/-- Any number of rounds, as many as possible. -/
def many (p : Pattern) : Pattern :=
  .star false p

/-- At least one round, as many as possible. -/
def many1 (p : Pattern) : Pattern :=
  .seq p (.star false p)

def oneOf (s : String) : Pattern :=
  .char fun c => s.toList.contains c

/-- The names of the groups, from left to right. -/
def groupNames : Pattern → List String
  | .seq p q | .alt p q => groupNames p ++ groupNames q
  | .star _ p => groupNames p
  | .group name p => name :: groupNames p
  | _ => []

/-! ## Matching -/

/-- A part of a text that a group matched, from one place up to another. -/
structure Part where
  name : String
  start : Nat
  stop : Nat
  deriving DecidableEq, Repr

/-- A place in a text: the characters before it in reverse, how many they are, the characters behind
it, and the parts matched by groups on the way, the latest first. -/
structure Cursor where
  before : List Char
  pos : Nat
  rest : List Char
  parts : List Part

/-- The text between two places that are not behind this one. -/
def Cursor.slice (c : Cursor) (start stop : Nat) : List Char :=
  ((c.before.drop (c.pos - stop)).take (stop - start)).reverse

/-- What is left to match, as a function of the place reached. -/
abbrev Continuation := Cursor → Option Cursor

/-- At most `rounds` rounds of `body`, each of which has to move on, then `k`. -/
def repeatGreedy (body : Cursor → Continuation → Option Cursor) :
    Nat → Cursor → Continuation → Option Cursor
  | 0, c, k => k c
  | rounds + 1, c, k =>
    match body c fun c' => if c.pos < c'.pos then repeatGreedy body rounds c' k else none with
    | some r => some r
    | none => k c

/-- `k` or, if it fails, one more of at most `rounds` rounds of `body`. -/
def repeatLazy (body : Cursor → Continuation → Option Cursor) :
    Nat → Cursor → Continuation → Option Cursor
  | 0, c, k => k c
  | rounds + 1, c, k =>
    match k c with
    | some r => some r
    | none => body c fun c' => if c.pos < c'.pos then repeatLazy body rounds c' k else none

/-- The first way to match the pattern here and `k` behind it. -/
def run : Pattern → Cursor → Continuation → Option Cursor
  | .empty, c, k => k c
  | .char test, c, k =>
    match c.rest with
    | x :: rest =>
      if test x then k { c with before := x :: c.before, pos := c.pos + 1, rest } else none
    | [] => none
  | .seq p q, c, k => run p c fun c' => run q c' k
  | .alt p q, c, k =>
    match run p c k with
    | some r => some r
    | none => run q c k
  | .star false p, c, k => repeatGreedy (run p) c.rest.length c k
  | .star true p, c, k => repeatLazy (run p) c.rest.length c k
  | .group name p, c, k =>
    run p c fun c' => k { c' with parts := ⟨name, c.pos, c'.pos⟩ :: c'.parts }
  | .atStart, c, k => if c.before.isEmpty then k c else none
  | .atEnd, c, k => if c.rest.isEmpty then k c else none

/-- A match: where it starts, in characters and in bytes, its text and its groups. -/
structure Match where
  start : Nat
  byteStart : Nat
  text : List Char
  groups : List (String × List Char)
  deriving DecidableEq, Repr

/-- The text of a group that took part in the match. -/
def Match.group? (m : Match) (name : String) : Option (List Char) :=
  (m.groups.find? (·.1 == name)).map (·.2)

/-- The text of a group, empty if it took no part in the match. -/
def Match.group (m : Match) (name : String) : List Char :=
  (m.group? name).getD []

/-- The length of a match in bytes. -/
def Match.byteLength (m : Match) : Nat :=
  Text.utf8Length m.text

/-- The match at a place, if there is one. -/
def matchAt (p : Pattern) (c : Cursor) : Option Match :=
  (run p { c with parts := [] } some).map fun c' =>
    { start := c.pos
      byteStart := Text.utf8Length c.before
      text := c'.slice c.pos c'.pos
      groups := c'.parts.map fun part => (part.name, c'.slice part.start part.stop) }

/-- The successive matches from a place on, not counting the next `skip` characters, which belong to
the match before. -/
def occurrencesFrom (p : Pattern) (before : List Char) (pos skip : Nat) : List Char → List Match
  | [] => []
  | x :: rest =>
    match skip with
    | skip + 1 => occurrencesFrom p (x :: before) (pos + 1) skip rest
    | 0 =>
      match p.matchAt ⟨before, pos, x :: rest, []⟩ with
      | some m => m :: occurrencesFrom p (x :: before) (pos + 1) (m.text.length - 1) rest
      | none => occurrencesFrom p (x :: before) (pos + 1) 0 rest

/-- The successive matches in a text, from left to right, none overlapping another. -/
def occurrences (p : Pattern) (text : List Char) : List Match :=
  occurrencesFrom p [] 0 0 text

/-- The leftmost match from a place on. -/
def findFrom (p : Pattern) (before : List Char) (pos : Nat) : List Char → Option Match
  | [] => none
  | x :: rest =>
    match p.matchAt ⟨before, pos, x :: rest, []⟩ with
    | some m => some m
    | none => findFrom p (x :: before) (pos + 1) rest

/-- The leftmost match in a text that is not empty. -/
def find? (p : Pattern) (text : List Char) : Option Match :=
  findFrom p [] 0 text

/-- Whether the pattern matches anywhere in a text, at its end too. -/
def isMatch (p : Pattern) (text : List Char) : Bool :=
  (List.range (text.length + 1)).any fun n =>
    (p.matchAt ⟨(text.take n).reverse, n, text.drop n, []⟩).isSome

theorem occurrencesFrom_head (p : Pattern) (before : List Char) (pos : Nat) (text : List Char) :
    (occurrencesFrom p before pos 0 text).head? = findFrom p before pos text := by
  induction text generalizing before pos with
  | nil => rfl
  | cons x rest ih =>
    simp only [occurrencesFrom, findFrom]
    cases p.matchAt ⟨before, pos, x :: rest, []⟩ with
    | some m => rfl
    | none => exact ih _ _

/-- The leftmost match is the first of all. -/
theorem occurrences_head (p : Pattern) (text : List Char) :
    (p.occurrences text).head? = p.find? text :=
  occurrencesFrom_head p [] 0 text

end Pattern

end Gazetteer
