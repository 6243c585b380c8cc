import Gazetteer.Pattern.Basic
import Gazetteer.Unicode.Blank
import Gazetteer.Unicode.Letter
import Gazetteer.Unicode.Number

/-!
# The patterns of notes

Every piece of notation that is recognized inside a note, each under the name by which the rest of
the library refers to it.
-/

namespace Gazetteer.Pattern

open Gazetteer.Unicode (isBlank isLetter isNumber)

def blanks : Pattern := many (.char isBlank)

def gaps : Pattern := many (oneOf " \t")

def digits : Pattern := many1 (.char Char.isDigit)

/-- A signed decimal number without exponent, such as `48.8566`, `-.5` or `+2`. -/
def decimal : Pattern :=
  all [opt (oneOf "+-"), opt (.seq (many (.char Char.isDigit)) (lit ".")), digits]

def isTagChar (c : Char) : Bool :=
  isLetter c || isNumber c || c == '_' || c == '/' || c == '-'

def tagItem : Pattern :=
  .seq (lit "tag:") (many1 (.char isTagChar))

/-- The tag items that may follow a fact on its line, as the group `tags`. -/
def trailingTags : Pattern :=
  opt (.seq gaps (.group "tags" (many1 (.seq tagItem (many (oneOf " \t,"))))))

/-- The two halves of a coordinate, as the groups `lat` and `lng`. -/
def coordinates : Pattern :=
  all [.group "lat" decimal, blanks, lit ",", blanks, .group "lng" decimal]

def codeMark : Char := Char.ofNat 0x60

def fence : Pattern := lit (String.ofList [codeMark, codeMark, codeMark])

/-- The older way to write a place, `location: [48.85,2.35]` as inline code; the brackets may be
left out. -/
def legacyLocation : Pattern :=
  all [.char (· == codeMark), lit "location:", blanks, opt (lit "["), blanks, coordinates, blanks,
    opt (lit "]"), .char (· == codeMark)]

/-- A place written as a link, `[Name](geo:48.85,2.35)`, and the tags behind it. -/
def inlineLocation : Pattern :=
  all [lit "[", .group "name" (many (.char fun c => c != ']' && c != '\n')), lit "](geo:", blanks,
    coordinates, blanks, lit ")", trailingTags]

/-- One tag item, its value as the group `tag`. -/
def inlineTag : Pattern :=
  .seq (lit "tag:") (.group "tag" (many1 (.char isTagChar)))

/-- A fenced geometry block and the tags behind its closing fence. -/
def geometryBlock : Pattern :=
  all [fence, lit "geojson", gaps, opt (lit "\r"), lit "\n",
    .group "payload" (.star true (.char fun _ => true)), fence, trailingTags]

/-- A coordinate that is a text of its own, `48.1,11.5`. -/
def coordinateString : Pattern :=
  all [.atStart, blanks, coordinates, blanks, .atEnd]

/-- A wiki link that is a text of its own, `[[Target#Heading|Alias]]`. -/
def frontMatterLink : Pattern :=
  all [.atStart, blanks, lit "[[", .group "target" (many1 (.char fun c => c != ']' && c != '|')),
    opt (.seq (lit "|") (.group "alias" (many (.char (· != ']'))))), lit "]]", blanks, .atEnd]

/-- A block id at the end of a line, `Some paragraph ^block-1`. -/
def blockId : Pattern :=
  all [.alt .atStart (.char isBlank), lit "^",
    .group "id" (many1 (.char fun c => c.isAlphanum || c == '-')), blanks, .atEnd]

def bodyTag : Pattern :=
  all [.alt .atStart (.char fun c => isBlank c || c == ','), lit "#",
    .group "tag" (all [many (.char isTagChar), .char isLetter, many (.char isTagChar)])]

/-- The value of a line predicate, `from-to`. -/
def lineRange : Pattern :=
  all [.atStart, blanks, .group "from" digits, blanks, lit "-", blanks, .group "to" digits, blanks,
    .atEnd]

/-- The tags of a text of tag items: `tag:a tag:b/c` has the tags `#a` and `#b/c`. -/
def inlineTags (text : List Char) : List String :=
  (inlineTag.occurrences text).map fun m => String.ofList ('#' :: m.group "tag")

end Gazetteer.Pattern
