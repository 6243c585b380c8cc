import Gazetteer.Json.Basic
import Gazetteer.Number.Style
import Gazetteer.Text.Quoted

/-!
# Writing JSON text

The compact form of a value: no spaces, fields in key order, and an escape only where JSON demands
one.
-/

namespace Gazetteer.Json

/-- How a character is written inside a string. -/
def writeChar (c : Char) : List Char :=
  match c with
  | '"' => ['\\', '"']
  | '\\' => ['\\', '\\']
  | '\x08' => ['\\', 'b']
  | '\x0c' => ['\\', 'f']
  | '\n' => ['\\', 'n']
  | '\r' => ['\\', 'r']
  | '\t' => ['\\', 't']
  | c =>
    if c.toNat < 32 then
      let ds := Text.hexDigits c.toNat
      '\\' :: 'u' :: List.replicate (4 - ds.length) '0' ++ ds
    else [c]

def writeString (s : String) : String :=
  String.ofList ('"' :: s.toList.flatMap writeChar ++ ['"'])

mutual

def write : Json → String
  | .null => "null"
  | .bool b => if b then "true" else "false"
  | .int n => toString n
  | .num x => Number.Style.json.render x
  | .str s => writeString s
  | .arr items => "[" ++ ",".intercalate (writeItems items) ++ "]"
  | .obj fields => "\x7b" ++ ",".intercalate (writeFields fields) ++ "\x7d"

/-- The texts of the elements of an array. -/
def writeItems : List Json → List String
  | [] => []
  | j :: rest => write j :: writeItems rest

/-- The texts of the fields of an object. -/
def writeFields : List (String × Json) → List String
  | [] => []
  | (key, j) :: rest => (writeString key ++ ":" ++ write j) :: writeFields rest

end

end Gazetteer.Json
