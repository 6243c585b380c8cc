import Gazetteer.Config.Reading
import Gazetteer.Number.Style
import Gazetteer.Toml.Reader

/-!
# Settings as a document

Settings are kept in a TOML document. What the document leaves out keeps its default, and writing
leaves out only the properties of icons and strokes that are not set.
-/

namespace Gazetteer.Config

def ofDocument (text : List Char) : Except Error Config :=
  match (Toml.read text).bind ofJson with
  | some c => .ok c
  | none => .error (.serialization "Toml deserialization error: not a settings document")

/-! ## Writing -/

/-- A number as the document has it. -/
def numberText (x : Float) : List Char :=
  if x.isNaN then "nan".toList else (Number.Style.settings.render x).toList

/-- A truth value as the document has it. -/
def boolText (b : Bool) : List Char :=
  (toString b).toList

/-- A text as the document has it. -/
def quotedText (s : String) : List Char :=
  Toml.writeText s.toList

/-- A line with a key and its value. -/
def entry (key : String) (value : List Char) : List Char :=
  key.toList ++ " = ".toList ++ value ++ ['\n']

/-- A line with a key, if it has a value. -/
def entry? {α : Type} (key : String) (write : α → List Char) (value : Option α) : List Char :=
  (value.map fun a => entry key (write a)).getD []

/-- The texts of a list on one line. -/
def textList (ss : List String) : List Char :=
  '[' :: [',', ' '].intercalate (ss.map quotedText) ++ [']']

/-- The header of a table, below an empty line. -/
def header (name : String) : List Char :=
  ('\n' :: name.toList) ++ ['\n']

def iconText (i : Icon) : List Char :=
  entry? "prefix" quotedText i.iconSet ++ entry? "icon" quotedText i.icon ++
    entry? "marker_color" quotedText i.markerColor ++ entry? "shape" quotedText i.shape ++
    entry? "emoji" quotedText i.emoji ++ entry? "opacity" numberText i.opacity

def strokeText (s : Stroke) : List Char :=
  entry? "color" quotedText s.color ++ entry? "weight" numberText s.weight ++
    entry? "opacity" numberText s.opacity ++ entry? "dash_array" quotedText s.dashArray ++
    entry? "fill_color" quotedText s.fillColor ++ entry? "fill_opacity" numberText s.fillOpacity

def ruleText (r : DisplayRule) : List Char :=
  header "[[display_rules]]" ++ entry "query" (quotedText r.query) ++
    entry "preset" (boolText r.preset) ++ header "[display_rules.icon]" ++ iconText r.icon ++
    header "[display_rules.path]" ++ strokeText r.stroke

def rulesText : List DisplayRule → List Char
  | [] => entry "display_rules" ['[', ']']
  | rs => rs.flatMap ruleText

def toDocument (c : Config) : List Char :=
  entry "frontmatter_key" (quotedText c.key) ++ entry "extensions" (textList c.extensions) ++
    entry "default_query" (quotedText c.defaultQuery) ++ rulesText c.displayRules

end Gazetteer.Config
