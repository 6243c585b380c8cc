import Gazetteer.Unicode.Composition

/-!
# Composed form

Two texts that spell the same characters, one with ready-made letters and one with marks that
follow their letter, have one *composed form*: every character is taken apart (`decompose`), the
marks of a letter are put into the order of their combining classes (`reorder`), and each letter
takes in the marks it has a ready-made form with (`compose`).
-/

namespace Gazetteer.Unicode

/-! ## Hangul syllables

A syllable is `0xAC00 + (l * 21 + v) * 28 + t` for a leading consonant `l`, a vowel `v` and a
trailing consonant `t`, which is zero if there is none. -/

/-- The code points of a syllable: leading consonant, vowel and, if any, trailing consonant. -/
def hangulParts (n : Nat) : Option (List Nat) :=
  if 0xAC00 ≤ n ∧ n < 0xAC00 + 11172 then
    let s := n - 0xAC00
    let parts := [0x1100 + s / 588, 0x1161 + s % 588 / 28]
    some (if s % 28 = 0 then parts else parts ++ [0x11A7 + s % 28])
  else none

/-- The syllable made of a leading consonant and a vowel, or of an open syllable and a trailing
consonant. -/
def hangulSyllable (a b : Nat) : Option Nat :=
  if 0x1100 ≤ a ∧ a < 0x1100 + 19 ∧ 0x1161 ≤ b ∧ b < 0x1161 + 21 then
    some (0xAC00 + ((a - 0x1100) * 21 + (b - 0x1161)) * 28)
  else if 0xAC00 ≤ a ∧ a < 0xAC00 + 11172 ∧ (a - 0xAC00) % 28 = 0 ∧
      0x11A7 < b ∧ b < 0x11A7 + 28 then
    some (a + (b - 0x11A7))
  else none

/-! ## Taking apart -/

/-- What a run of singletons says about the code point `n`. -/
def singletonTarget (n : Nat) : Option Nat :=
  singletonRuns.findSome? fun (first, targets) =>
    if first ≤ n then targets[n - first]? else none

def decomposeOnce (n : Nat) : Option (List Nat) :=
  match hangulParts n with
  | some parts => some parts
  | none =>
    match (composedPairs ++ excludedPairs).find? (·.1 == n) with
    | some (_, a, b) => some [a, b]
    | none => (singletonTarget n).map ([·])

def decomposeUpTo : Nat → Nat → List Nat
  | 0, n => [n]
  | depth + 1, n =>
    match decomposeOnce n with
    | some parts => parts.flatMap (decomposeUpTo depth)
    | none => [n]

/-- The code points a character is made of; no character needs more than four steps. -/
def decompose (n : Nat) : List Nat :=
  decomposeUpTo 4 n

/-! ## The order of marks -/

/-- The combining class of a code point, zero for a character that is no mark. -/
def combiningClass (n : Nat) : Nat :=
  match combiningRanges.find? fun (lo, hi, _) => decide (lo ≤ n) && decide (n ≤ hi) with
  | some (_, _, k) => k
  | none => 0

/-- Put the mark `n` among marks in the order of their classes, behind those of its own class. -/
def insertMark (n : Nat) : List Nat → List Nat
  | [] => [n]
  | m :: ms => if combiningClass n < combiningClass m then n :: m :: ms else m :: insertMark n ms

/-- Order each run of marks by class, keeping the order of marks of one class. `marks` holds the
ordered marks of the run so far. -/
def reorderFrom (marks : List Nat) : List Nat → List Nat
  | [] => marks
  | n :: rest =>
    if combiningClass n = 0 then marks ++ n :: reorderFrom [] rest
    else reorderFrom (insertMark n marks) rest

/-- Order each run of marks by class. -/
def reorder (ns : List Nat) : List Nat :=
  reorderFrom [] ns

/-! ## Putting together -/

/-- The ready-made character for `a` followed by `b`. -/
def pairComposite (a b : Nat) : Option Nat :=
  match hangulSyllable a b with
  | some s => some s
  | none => (composedPairs.find? fun (_, x, y) => x == a && y == b).map (·.1)

/-- Compose after the letter `base`, whose marks so far are `marks` in reverse. A mark is out of the
letter's reach when a mark of its class or a higher one stands between them. -/
def composeFrom (base : Nat) (marks : List Nat) : List Nat → List Nat
  | [] => base :: marks.reverse
  | n :: rest =>
    let k := combiningClass n
    let reaches := match marks with
      | [] => true
      | m :: _ => decide (combiningClass m < k)
    match (if reaches then pairComposite base n else none) with
    | some c => composeFrom c marks rest
    | none =>
      if k = 0 then base :: marks.reverse ++ composeFrom n [] rest
      else composeFrom base (n :: marks) rest

/-- Compose a text of code points; marks before the first letter stay as they are. -/
def compose : List Nat → List Nat
  | [] => []
  | n :: rest => if combiningClass n = 0 then composeFrom n [] rest else n :: compose rest

/-- The composed form of a text. Below U+0300 there is no mark and no character that decomposes
for good, so such a text is its own composed form. -/
def composed (s : String) : String :=
  if s.toList.all fun c => decide (c.toNat < 0x300) then s
  else
    let parts := s.toList.flatMap fun c => decompose c.toNat
    String.ofList ((compose (reorder parts)).map Char.ofNat)

end Gazetteer.Unicode
