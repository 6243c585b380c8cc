import Gazetteer.Text.Hex
import Gazetteer.Text.Utf8
import Gazetteer.Unicode.Alphabetic
import Gazetteer.Unicode.Blank
import Gazetteer.Unicode.Lowercase
import Gazetteer.Unicode.Normalization

/-!
# Comparing names

The forms in which names, headings and link targets are compared.
-/

namespace Gazetteer

/-- A name without regard to case and spelling of composed characters. -/
def foldName (s : String) : String :=
  Unicode.lowercase (Unicode.composed s)

/-- The anchor of a heading: lower case, hyphens for white space, nothing but words and hyphens. -/
def toAnchor (title : String) : String :=
  let lower := Unicode.lowercase (Unicode.trimText title)
  let hyphenated := lower.toList.map fun c => if Unicode.isBlank c then '-' else c
  String.ofList (hyphenated.filter fun c => Unicode.isAlphanumeric c || c == '-')

/-- The bytes of a text in which `%` and two hexadecimal digits stand for a byte. -/
def percentBytes : List Char → List UInt8
  | '%' :: a :: b :: rest =>
    match Text.hexValue a, Text.hexValue b with
    | some m, some n => UInt8.ofNat (16 * m + n) :: percentBytes rest
    | _, _ => '%'.toUInt8 :: percentBytes (a :: b :: rest)
  | c :: rest => (String.ofList [c]).toUTF8.toList ++ percentBytes rest
  | [] => []

/-- A link target with its `%` escapes decoded. -/
def percentDecode (s : String) : String :=
  String.ofList (Text.decodeLossy (percentBytes s.toList))

end Gazetteer
