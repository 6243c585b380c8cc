import Gazetteer.Display.Rules

/-!
# Settings

What can be set: the property that holds the place of a note, the extensions of the files that
count as notes, the query that is asked when no other is given, and the display rules. Settings are
checked before use (`Config.check`), which compiles the queries in them.
-/

namespace Gazetteer

structure Config where
  /-- The property that holds the place of a whole note. -/
  key : String := "location"
  /-- The extensions of the files that are indexed. -/
  extensions : List String := ["md"]
  /-- The query that is asked when no other is given. -/
  defaultQuery : String := ""
  displayRules : List DisplayRule := DisplayRule.defaults
  deriving BEq, Repr, Inhabited

namespace Config

/-- The settings that count where nothing is set. -/
def default : Config := {}

/-- Why settings cannot be used. -/
inductive Fault where
  | blankKey
  | badQuery (query : String) (cause : Query.Fault)
  | badRule (cause : DisplayRules.Fault)
  deriving DecidableEq, Repr

def Fault.toError : Fault → Error
  | .blankKey => .config "frontmatter_key must not be empty"
  | .badQuery query cause => .config s!"default_query '{query}': {cause.toError.message}"
  | .badRule cause => cause.toError

/-- The compiled default query and display rules of settings that can be used. -/
def check (c : Config) : Except Fault (Query × DisplayRules) := do
  if Unicode.isBlankText c.key then throw .blankKey
  let query ← (Query.compile c.defaultQuery).mapError (Fault.badQuery c.defaultQuery)
  let rules ← (DisplayRules.compile c.displayRules).mapError Fault.badRule
  return (query, rules)

/-- Whether files with an extension are indexed; ASCII case does not matter. -/
def indexes (c : Config) (extension : String) : Bool :=
  let lower (s : String) : List Char := s.toList.map Char.toLower
  c.extensions.any fun e => lower e == lower extension

end Config

end Gazetteer
