import Gazetteer.Pattern.Basic

/-!
# Tag patterns

A tag pattern is a tag in which `*` stands for any text without line feeds; every other character
stands for itself. The empty pattern matches nothing.

As a text pattern it is the pieces between the stars, each as it stands, with `.*` between them and
anchors around. The matcher goes through the tag once and keeps what may be left of it, so that it
does not try the stars' lengths one against another.
-/

namespace Gazetteer

structure TagPattern where
  text : String
  deriving DecidableEq, Repr

namespace TagPattern

/-! ## As a text pattern -/

/-- What a `*` stands for. -/
def anything : Pattern :=
  .many (.char (· != '\n'))

/-- Pieces as they stand, with a `*` between any two. -/
def joined (pieces : List (List Char)) : Pattern :=
  .all ((pieces.map fun piece => .lit (String.ofList piece)).intersperse anything)

def pattern (p : TagPattern) : Pattern :=
  .all [.atStart, joined (p.text.toList.splitOn '*'), .atEnd]

/-! ## Matching -/

/-- What may be left of a text behind a `*`. -/
def afterStar : List Char → List (List Char)
  | [] => [[]]
  | c :: cs => (c :: cs) :: if c = '\n' then [] else afterStar cs

/-- What is left of a text behind a character. -/
def afterChar (c : Char) : List Char → Option (List Char)
  | [] => none
  | x :: rest => if x = c then some rest else none

/-- What may be left behind a pattern, of any of the given texts. -/
def leftOver : List Char → List (List Char) → List (List Char)
  | [], texts => texts
  | c :: pattern, texts =>
    if c = '*' then leftOver pattern (texts.flatMap afterStar).eraseDups
    else leftOver pattern (texts.filterMap (afterChar c))

/-- Whether a pattern matches a tag: nothing may be left of it. -/
def isMatch (p : TagPattern) (tag : String) : Bool :=
  p.text != "" && (leftOver p.text.toList [tag.toList]).contains []

end TagPattern

end Gazetteer
