import Gazetteer.Toml.Scalar
import Gazetteer.Toml.Table
import Gazetteer.Toml.Text

/-!
# Reading TOML

A TOML document as a JSON object. A document is refused as a whole; what exactly is wrong with it is
not told.
-/

namespace Gazetteer.Toml

def isBlank (c : Char) : Bool :=
  c == ' ' || c == '\t'

def skipBlanks (cs : List Char) : List Char :=
  cs.dropWhile isBlank

/-- What follows blanks, line breaks and comments. -/
def skipFiller (inComment : Bool) : List Char → Option (List Char)
  | [] => some []
  | '\n' :: rest | '\r' :: '\n' :: rest => skipFiller false rest
  | c :: rest =>
    if inComment then if isAllowed c then skipFiller true rest else none
    else if isBlank c then skipFiller false rest
    else if c = '#' then skipFiller true rest
    else some (c :: rest)

/-- What follows the rest of a line that has nothing but blanks and a comment left. -/
def endLine (cs : List Char) : Option (List Char) :=
  let cs := match skipBlanks cs with
    | '#' :: rest => rest.dropWhile isAllowed
    | rest => rest
  match cs with
  | [] => some []
  | '\n' :: rest | '\r' :: '\n' :: rest => some rest
  | _ => none

/-! ## Keys -/

/-- A character of a key without quotes. -/
def isKeyChar (c : Char) : Bool :=
  c.isAlphanum || c == '_' || c == '-'

/-- The key without dots at the start of a text, blanks around it, and what follows. -/
def readSimpleKey (cs : List Char) : Option (String × List Char) :=
  let cs := skipBlanks cs
  match readLineText cs with
  | some (text, rest) => some (String.ofList text, skipBlanks rest)
  | none =>
    match cs.takeWhile isKeyChar with
    | [] => none
    | word => some (String.ofList word, skipBlanks (cs.dropWhile isKeyChar))

/-- The key at the start of a text, the parts in front of its last dot apart, and what follows; the
fuel bounds the number of its parts. -/
def readKey : Nat → List Char → Option ((List String × String) × List Char)
  | 0, _ => none
  | fuel + 1, cs => do
    let (part, rest) ← readSimpleKey cs
    match rest with
    | '.' :: rest =>
      let ((path, key), rest) ← readKey fuel rest
      return ((part :: path, key), rest)
    | rest => return (([], part), rest)

/-! ## Values -/

/-- A reader of a value at the start of a text. -/
abbrev ValueReader := List Char → Option (Json × List Char)

/-- The items of a list behind its bracket; the fuel bounds their number. -/
def readItems (item : ValueReader) : Nat → List Char → Option (List Json × List Char)
  | 0, _ => none
  | fuel + 1, cs => do
    match ← skipFiller false cs with
    | ']' :: rest => return ([], rest)
    | cs =>
      let (j, rest) ← item cs
      match ← skipFiller false rest with
      | ',' :: rest =>
        let (js, rest) ← readItems item fuel rest
        return (j :: js, rest)
      | ']' :: rest => return ([j], rest)
      | _ => none

/-- A key and its value, and what follows. -/
def readPair (item : ValueReader) (cs : List Char) :
    Option ((List String × String) × Json × List Char) := do
  let (key, rest) ← readKey cs.length cs
  match rest with
  | '=' :: rest =>
    let (j, rest) ← item (skipBlanks rest)
    return (key, j, rest)
  | _ => none

/-- The pairs of a table on one line behind its bracket, added to those so far; the fuel bounds
their number. -/
def readPairs (item : ValueReader) : Nat → Fields → List Char → Option (Fields × List Char)
  | 0, _, _ => none
  | fuel + 1, entries, cs => do
    let ((path, key), j, rest) ← readPair item cs
    let entries ← setKey path key j entries
    match skipBlanks rest with
    | ',' :: rest => readPairs item fuel entries rest
    | '\x7d' :: rest => return (entries, rest)
    | _ => none

/-- The value at the start of a text, with at most `depth` lists and tables inside each other. -/
def readValue : Nat → ValueReader
  | 0, _ => none
  | depth + 1, cs =>
    match cs with
    | '[' :: rest =>
      (readItems (readValue depth) (rest.length + 1) rest).map fun (js, rest) => (.arr js, rest)
    | '\x7b' :: rest =>
      match skipBlanks rest with
      | '\x7d' :: rest => some (.obj [], rest)
      | rest =>
        (readPairs (readValue depth) rest.length [] rest).map fun (entries, rest) =>
          (.obj (fieldsOf entries), rest)
    | '"' :: _ | '\'' :: _ =>
      (readText cs).map fun (text, rest) => (.str (String.ofList text), rest)
    | _ => readBare cs

/-- The number of lists and tables inside each other that a document may have. -/
def maxDepth : Nat := 80

/-! ## Documents -/

/-- The statements of a document, added to what is there; keys belong to the table at the path
`table`. The fuel bounds the number of lines. -/
def readStatements : Nat → List String → Fields → List Char → Option Fields
  | 0, _, _, _ => none
  | fuel + 1, table, entries, cs => do
    match ← skipFiller false cs with
    | [] => return entries
    | '[' :: '[' :: rest =>
      let ((path, key), rest) ← readKey rest.length rest
      match rest with
      | ']' :: ']' :: rest =>
        let entries ← openListed path key entries
        readStatements fuel (path ++ [key]) entries (← endLine rest)
      | _ => none
    | '[' :: rest =>
      let ((path, key), rest) ← readKey rest.length rest
      match rest with
      | ']' :: rest =>
        let entries ← openTable path key entries
        readStatements fuel (path ++ [key]) entries (← endLine rest)
      | _ => none
    | cs =>
      let ((path, key), j, rest) ← readPair (readValue maxDepth) cs
      let entries ← setIn table path key j entries
      readStatements fuel table entries (← endLine rest)

def read (text : List Char) : Option Json :=
  let cs := match text with
    | '\uFEFF' :: rest => rest
    | rest => rest
  (readStatements (cs.length + 1) [] [] cs).map fun entries => .obj (fieldsOf entries)

end Gazetteer.Toml
