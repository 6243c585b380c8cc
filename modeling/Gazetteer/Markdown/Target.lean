import Gazetteer.Markdown.Mark

/-!
# Link targets in a text

How the target of a link is written: behind the brackets of its text, in a definition of its own, or
as an address between angle brackets.
-/

namespace Gazetteer.Markdown

open Gazetteer.Unicode (isAsciiPunctuation)

/-- The text that a target with backslashes and character references stands for; the fuel bounds its
length. -/
def unescapeUpTo (inTable : Bool) : Nat → List Char → List Char
  | 0, _ => []
  | _ + 1, [] => []
  | fuel + 1, '\\' :: c :: cs =>
    if inTable && c == '\\' && cs.head? == some '|' then unescapeUpTo inTable fuel cs
    else if isAsciiPunctuation c then c :: unescapeUpTo inTable fuel cs
    else '\\' :: unescapeUpTo inTable fuel (c :: cs)
  | fuel + 1, '&' :: cs =>
    match readEntity cs with
    | some (value, rest) => value ++ unescapeUpTo inTable fuel rest
    | none => '&' :: unescapeUpTo inTable fuel cs
  | fuel + 1, c :: cs =>
    if c = '\r' then unescapeUpTo inTable fuel cs else c :: unescapeUpTo inTable fuel cs

/-- The text that a target with backslashes and character references stands for. -/
def unescape (inTable : Bool) (cs : List Char) : List Char :=
  unescapeUpTo inTable (cs.length + 1) cs

/-- Read a target between angle brackets, behind the first. -/
def readPointed (acc : List Char) : List Char → Option (List Char × List Char)
  | [] => none
  | '\\' :: c :: cs =>
    if isAsciiPunctuation c then readPointed (c :: '\\' :: acc) cs
    else readPointed ('\\' :: acc) (c :: cs)
  | c :: cs =>
    if isLineEnd c || c == '<' then none
    else if c = '>' then some (acc.reverse, cs)
    else readPointed (c :: acc) cs

/-- The deepest nesting of parentheses in a target. -/
def maxParentheses : Nat := 6

/-- Read a target without angle brackets, up to white space or the closing parenthesis around it. -/
def readBare (acc : List Char) (nest : Nat) : List Char → Option (List Char × List Char)
  | [] => if nest = 0 then some (acc.reverse, []) else none
  | '\\' :: c :: cs =>
    if isAsciiPunctuation c then readBare (c :: '\\' :: acc) nest cs
    else readBare ('\\' :: acc) nest (c :: cs)
  | c :: cs =>
    if c.toNat ≤ 0x20 then if nest = 0 then some (acc.reverse, c :: cs) else none
    else if c = '(' then
      if maxParentheses ≤ nest then none else readBare (c :: acc) (nest + 1) cs
    else if c = ')' then
      if nest = 0 then some (acc.reverse, c :: cs) else readBare (c :: acc) (nest - 1) cs
    else readBare (c :: acc) nest cs

/-- Read a target as it is written. -/
def readTarget (cs : List Char) : Option (List Char × List Char) :=
  match cs with
  | '<' :: rest => readPointed [] rest
  | _ => readBare [] 0 cs

/-! ## Inline links -/

/-- White space between the parts of a link, with at most one line end. -/
def skipSeparator (ks : List Container) (cs : List Char) : List Char :=
  match skipGap cs with
  | '\r' :: '\n' :: rest => skipGap (skipContainers ks rest)
  | c :: rest => if isLineEnd c then skipGap (skipContainers ks rest) else c :: rest
  | [] => []

/-- The text behind a title, given its closing mark and its opening mark. -/
def skipTitleFrom (opening closing : Char) : List Char → Option (List Char)
  | [] => none
  | '\\' :: c :: cs =>
    if isAsciiPunctuation c then skipTitleFrom opening closing cs
    else skipTitleFrom opening closing (c :: cs)
  | c :: cs =>
    if c = closing then some cs
    else if c = opening then none
    else skipTitleFrom opening closing cs

def skipTitle (cs : List Char) : Option (List Char) :=
  match cs with
  | '"' :: rest => skipTitleFrom '"' '"' rest
  | '\'' :: rest => skipTitleFrom '\'' '\'' rest
  | '(' :: rest => skipTitleFrom '(' ')' rest
  | _ => none

/-- Read the target of a link behind the brackets of its text. -/
def readInlineTarget (ks : List Container) (inTable : Bool) (cs : List Char) :
    Option (List Char × List Char) :=
  match cs with
  | '(' :: rest =>
    match readTarget (skipSeparator ks rest) with
    | none => none
    | some (target, rest) =>
      let rest := skipSeparator ks rest
      let rest := match skipTitle rest with
        | some rest => skipSeparator ks rest
        | none => rest
      match rest with
      | ')' :: rest => some (unescape inTable target, rest)
      | _ => none
  | _ => none

/-! ## Addresses -/

/-- Read an address with a scheme behind its `<`. -/
def readAddress (cs : List Char) : Option (List Char × List Char) :=
  match cs with
  | [] => none
  | c :: _ =>
    let isSchemeChar (x : Char) : Bool := x.isAlphanum || x == '.' || x == '-' || x == '+'
    let scheme := cs.takeWhile isSchemeChar
    match cs.dropWhile isSchemeChar with
    | ':' :: rest =>
      if c.isAlpha ∧ 2 ≤ scheme.length ∧ scheme.length ≤ 32 then
        let isPathChar (x : Char) : Bool := x != '>' && x != '<' && decide (0x20 < x.toNat)
        match rest.dropWhile isPathChar with
        | '>' :: behind => some (scheme ++ ':' :: rest.takeWhile isPathChar, behind)
        | _ => none
      else none
    | _ => none

/-- A character in front of the `@` of a mail address. -/
def isMailChar (c : Char) : Bool :=
  c.isAlphanum || (".!#$%&'*+/=?^_\x7b|\x7d~-".toList.contains c) || c == codeMark

def isDomainLabel (cs : List Char) : Bool :=
  decide (cs.length ≤ 63) && cs.head?.any Char.isAlphanum && cs.getLast?.any Char.isAlphanum

/-- Read a mail address behind its `<`. -/
def readMail (cs : List Char) : Option (List Char × List Char) :=
  let name := cs.takeWhile isMailChar
  match name, cs.dropWhile isMailChar with
  | _ :: _, '@' :: rest =>
    let isDomainChar (x : Char) : Bool := x.isAlphanum || x == '-' || x == '.'
    let domain := rest.takeWhile isDomainChar
    match rest.dropWhile isDomainChar with
    | '>' :: behind =>
      if (domain.splitOn '.').all isDomainLabel then some (name ++ '@' :: domain, behind) else none
    | _ => none
  | _, _ => none

/-! ## Definitions -/

/-- White space between the parts of a definition; also says how many lines it ends, which must not
be more than one. The fuel bounds the number of line ends. -/
def skipDefinitionSpace (newline : List Char → Option (List Char)) (ended : Nat) :
    Nat → List Char → Option (List Char × Nat)
  | 0, _ => none
  | fuel + 1, cs =>
    let next (rest : List Char) :=
      if ended = 0 then (newline rest).bind (skipDefinitionSpace newline 1 fuel) else none
    match skipGap cs with
    | [] => if ended = 0 then some ([], 1) else none
    | '\r' :: '\n' :: rest => next rest
    | c :: rest => if isLineEnd c then next rest else some (c :: rest, ended)

/-- The text behind the title of a definition, which may go on over several lines. -/
def skipDefinitionTitle (newline : List Char → Option (List Char)) (closing : Char) :
    Nat → List Char → Option (List Char)
  | 0, _ => none
  | _ + 1, [] => none
  | fuel + 1, '\\' :: c :: cs =>
    if isAsciiPunctuation c then skipDefinitionTitle newline closing fuel cs
    else skipDefinitionTitle newline closing fuel (c :: cs)
  | fuel + 1, c :: cs =>
    if c = closing then some cs
    else if isLineEnd c then
      let cs := if c = '\r' ∧ cs.head? = some '\n' then cs.drop 1 else cs
      match newline cs with
      | some rest =>
        if isBlankRest rest then none else skipDefinitionTitle newline closing fuel rest
      | none => none
    else skipDefinitionTitle newline closing fuel cs

/-- Read a definition such as `[label]: target "title"`: its label, its target and the text behind
it, which is the rest of its last line. A title that does not end its line is none, and then the
target has to end its own. -/
def readDefinition (newline : List Char → Option (List Char)) (cs : List Char) :
    Option (List Char × List Char × List Char) :=
  match cs with
  | '[' :: body =>
    match readLabel newline body with
    | some (label, ':' :: rest) =>
      match skipDefinitionSpace newline 0 3 rest with
      | none => none
      | some (rest, _) =>
        match readTarget rest with
        | none => none
        | some (target, behind) =>
          if rest.length = behind.length then none
          else
            let plain := some (label, unescape false target, behind)
            match skipDefinitionSpace newline 0 3 behind with
            | none => plain
            | some (tail, ended) =>
              if tail.length = behind.length ∧ ended = 0 then none
              else
                let orPlain := if 0 < ended then plain else none
                let titled := match tail with
                  | '"' :: more => skipDefinitionTitle newline '"' more.length more
                  | '\'' :: more => skipDefinitionTitle newline '\'' more.length more
                  | '(' :: more => skipDefinitionTitle newline ')' more.length more
                  | _ => none
                match titled with
                | some tail =>
                  if isBlankRest tail then some (label, unescape false target, tail) else orPlain
                | none => orPlain
    | _ => none
  | _ => none

end Gazetteer.Markdown
