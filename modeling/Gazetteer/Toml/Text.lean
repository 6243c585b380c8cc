import Gazetteer.Text.Hex

/-!
# TOML texts

Texts between quotes. There are four notations: double quotes allow escapes and single quotes do
not, and three of either allow line breaks. Every notation can be read; a text is written in the
plainest notation that needs no escapes, if there is one.
-/

namespace Gazetteer.Toml

/-- A character that may stand in a text or a comment as it is. -/
def isAllowed (c : Char) : Bool :=
  c == '\t' || decide (0x20 ≤ c.toNat ∧ c.toNat ≠ 0x7F)

/-! ## Reading -/

/-- The character of a code point in hexadecimal digits. -/
def ofCode (ds : List Char) : Option Char := do
  let values ← ds.mapM Text.hexValue
  let n := values.foldl (fun n v => 16 * n + v) 0
  if n.isValidChar then some (Char.ofNat n) else none

/-- The character that an escape stands for, without its backslash, and what follows. -/
def readEscape : List Char → Option (Char × List Char)
  | 'b' :: rest => some ('\x08', rest)
  | 't' :: rest => some ('\t', rest)
  | 'n' :: rest => some ('\n', rest)
  | 'f' :: rest => some ('\x0c', rest)
  | 'r' :: rest => some ('\r', rest)
  | '"' :: rest => some ('"', rest)
  | '\\' :: rest => some ('\\', rest)
  | 'u' :: rest => if rest.length < 4 then none else (ofCode (rest.take 4)).map (·, rest.drop 4)
  | 'U' :: rest => if rest.length < 8 then none else (ofCode (rest.take 8)).map (·, rest.drop 8)
  | _ => none

/-- What follows white space and line breaks. -/
def skipSpace : List Char → List Char
  | ' ' :: rest | '\t' :: rest | '\n' :: rest | '\r' :: '\n' :: rest => skipSpace rest
  | rest => rest

/-- What follows the end of a line and all space behind it, if the line has nothing but blanks
left. -/
def skipLineEnd (cs : List Char) : Option (List Char) :=
  match cs.dropWhile fun c => c == ' ' || c == '\t' with
  | '\n' :: rest | '\r' :: '\n' :: rest => some (skipSpace rest)
  | _ => none

/-- The end of a text between three quotes: up to two more quotes belong to the text. -/
def closeMulti (quote : Char) (done : List Char) (rest : List Char) : List Char × List Char :=
  let extra := (rest.takeWhile (· == quote)).take 2
  (done.reverse ++ extra, rest.drop extra.length)

/-- Read up to the closing quote; the fuel bounds the number of characters. -/
def readBasic : Nat → List Char → List Char → Option (List Char × List Char)
  | 0, _, _ => none
  | fuel + 1, done, cs =>
    match cs with
    | '"' :: rest => some (done.reverse, rest)
    | '\\' :: rest => (readEscape rest).bind fun (c, rest) => readBasic fuel (c :: done) rest
    | c :: rest => if isAllowed c then readBasic fuel (c :: done) rest else none
    | [] => none

/-- Read up to three closing quotes; the fuel bounds the number of characters. -/
def readMultiBasic : Nat → List Char → List Char → Option (List Char × List Char)
  | 0, _, _ => none
  | fuel + 1, done, cs =>
    match cs with
    | '"' :: '"' :: '"' :: rest => some (closeMulti '"' done rest)
    | '\\' :: rest =>
      match skipLineEnd rest with
      | some rest => readMultiBasic fuel done rest
      | none => (readEscape rest).bind fun (c, rest) => readMultiBasic fuel (c :: done) rest
    | '\r' :: '\n' :: rest | '\n' :: rest => readMultiBasic fuel ('\n' :: done) rest
    | c :: rest => if isAllowed c then readMultiBasic fuel (c :: done) rest else none
    | [] => none

/-- Read up to three closing single quotes. -/
def readMultiLiteral (done : List Char) : List Char → Option (List Char × List Char)
  | '\'' :: '\'' :: '\'' :: rest => some (closeMulti '\'' done rest)
  | '\r' :: '\n' :: rest | '\n' :: rest => readMultiLiteral ('\n' :: done) rest
  | c :: rest => if isAllowed c then readMultiLiteral (c :: done) rest else none
  | [] => none

/-- Read up to the closing single quote. -/
def readLiteral (cs : List Char) : Option (List Char × List Char) :=
  match cs.dropWhile fun c => isAllowed c && c != '\'' with
  | '\'' :: rest => some (cs.takeWhile fun c => isAllowed c && c != '\'', rest)
  | _ => none

/-- What follows a line break, if a text starts with one. -/
def skipBreak : List Char → List Char
  | '\n' :: rest | '\r' :: '\n' :: rest => rest
  | rest => rest

/-- The text on one line at the start of a text, and what follows. -/
def readLineText : List Char → Option (List Char × List Char)
  | '"' :: rest => readBasic (rest.length + 1) [] rest
  | '\'' :: rest => readLiteral rest
  | _ => none

/-- The text at the start of a text, and what follows. -/
def readText : List Char → Option (List Char × List Char)
  | '"' :: '"' :: '"' :: rest => readMultiBasic (rest.length + 1) [] (skipBreak rest)
  | '\'' :: '\'' :: '\'' :: rest => readMultiLiteral [] (skipBreak rest)
  | cs => readLineText cs

/-! ## Writing -/

/-- The number of times a character stands at the start of a text, and the longest run of it
anywhere. -/
def runs (quote : Char) : List Char → Nat × Nat
  | [] => (0, 0)
  | c :: cs =>
    let (first, longest) := runs quote cs
    if c = quote then (first + 1, max longest (first + 1)) else (0, longest)

/-- The length of the longest run of a character. -/
def longestRun (quote : Char) (cs : List Char) : Nat :=
  (runs quote cs).2

/-- A character that cannot be written without an escape. -/
def needsEscape (c : Char) : Bool :=
  !isAllowed c && c != '\n'

/-- A character as it is written between double quotes, a quote apart. -/
def escaped (multi : Bool) (c : Char) : List Char :=
  match c with
  | '\x08' => ['\\', 'b']
  | '\t' => ['\\', 't']
  | '\n' => if multi then ['\n'] else ['\\', 'n']
  | '\x0c' => ['\\', 'f']
  | '\r' => ['\\', 'r']
  | '\\' => ['\\', '\\']
  | c =>
    if needsEscape c then
      let ds := (Text.hexDigits c.toNat).map Char.toUpper
      ['\\', 'u'] ++ List.replicate (4 - ds.length) '0' ++ ds
    else [c]

/-- The characters between double quotes. Of quotes in a row, `most` may stand there without an
escape; `open` ones already do. -/
def escapeAll (multi : Bool) (most : Nat) : Nat → List Char → List Char
  | _, [] => []
  | run, c :: cs =>
    if c = '"' then
      if run < most then '"' :: escapeAll multi most (run + 1) cs
      else '\\' :: '"' :: escapeAll multi most 0 cs
    else escaped multi c ++ escapeAll multi most 0 cs

/-- A text between quotes. A text with a line break has one more behind the opening quotes. -/
def writeText (cs : List Char) : List Char :=
  let codes := cs.any needsEscape
  let escapes := codes || cs.contains '\\'
  let breaks := cs.contains '\n'
  let doubles := longestRun '"' cs
  let singles := longestRun '\'' cs
  let opening := if breaks then ['\n'] else []
  let basic := '"' :: escapeAll false 0 0 cs ++ ['"']
  let multi := ['"', '"', '"'] ++ opening ++ escapeAll true 2 0 cs ++ ['"', '"', '"']
  if !escapes && doubles == 0 && !breaks then basic
  else if !codes && singles == 0 && !breaks then '\'' :: cs ++ ['\'']
  else if !escapes && decide (doubles ≤ 2) then multi
  else if !codes && decide (singles ≤ 2) then
    ['\'', '\'', '\''] ++ opening ++ cs ++ ['\'', '\'', '\'']
  else if breaks then multi
  else basic

end Gazetteer.Toml
