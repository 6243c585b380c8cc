import Gazetteer.Text.Hex
import Gazetteer.Unicode.Printable

/-!
# Quoted text

The form in which a text is shown inside a message: between double quotes, with an escape for every
character that would not show as itself.
-/

namespace Gazetteer.Text

/-- How a character is written between double quotes. -/
def quotedChar (c : Char) : List Char :=
  match c with
  | '\t' => ['\\', 't']
  | '\r' => ['\\', 'r']
  | '\n' => ['\\', 'n']
  | '"' => ['\\', '"']
  | '\\' => ['\\', '\\']
  | '\x00' => ['\\', '0']
  | c =>
    if Unicode.isPrintable c && !Unicode.isGraphemeExtend c then [c]
    else '\\' :: 'u' :: '{' :: hexDigits c.toNat ++ ['}']

def quoted (s : String) : String :=
  String.ofList ('"' :: s.toList.flatMap quotedChar ++ ['"'])

end Gazetteer.Text
