import Gazetteer.Text.Hex

/-!
# YAML tokens

The first step of reading YAML: a text is cut into tokens, and the block structure that indentation
stands for is made explicit by tokens of its own. A scalar turns out to be a key only when its colon
comes, so the scanner remembers where the tokens of a key would have to go. A text is refused as a
whole; what exactly is wrong with it is not told.
-/

namespace Gazetteer.Yaml

inductive Token where
  | directive
  | documentStart
  | documentEnd
  | blockSequenceStart
  | blockMappingStart
  | blockEnd
  | flowSequenceStart
  | flowSequenceEnd
  | flowMappingStart
  | flowMappingEnd
  | blockEntry
  | flowEntry
  | key
  | value
  | alias (name : String)
  | anchor (name : String)
  | tag (name : String)
  /-- A scalar; only plain ones can mean anything but their text. -/
  | scalar (text : String) (plain : Bool)
  deriving DecidableEq, Repr

/-! ## Characters -/

def isBreak (c : Char) : Bool :=
  c == '\n' || c == '\r' || c == '\x85' || c == '\u2028' || c == '\u2029'

def isBlank (c : Char) : Bool :=
  c == ' ' || c == '\t'

/-- Whether a blank, a line break or the end stands here. -/
def endsWord : List Char → Bool
  | [] => true
  | c :: _ => isBlank c || isBreak c

/-- A character of the name of an anchor. -/
def isNameChar (c : Char) : Bool :=
  c.isAlphanum || c == '_' || c == '-'

/-- A character that may stand in a text at all. -/
def isAllowed (c : Char) : Bool :=
  let n := c.toNat
  n == 9 || n == 10 || n == 13 || decide (0x20 ≤ n ∧ n ≤ 0x7E) || n == 0x85 ||
    decide (0xA0 ≤ n ∧ n ≤ 0xD7FF) || decide (0xE000 ≤ n ∧ n ≤ 0xFFFD ∧ n ≠ 0xFEFF) ||
    decide (0x10000 ≤ n)

/-- The character that a line break is read as. -/
def breakChar (c : Char) : Char :=
  if c = '\u2028' ∨ c = '\u2029' then c else '\n'

/-! ## The scanner -/

/-- A place where a key may have started. -/
structure PossibleKey where
  /-- At the indentation of a mapping nothing but a key can stand. -/
  required : Bool
  /-- The number of tokens in front of it. -/
  position : Nat
  index : Nat
  line : Nat
  column : Nat

/-- A text scanned so far. -/
structure Scanner where
  rest : List Char
  index : Nat := 0
  line : Nat := 0
  column : Nat := 0
  /-- The column of the innermost block collection, `-1` outside of all, and those around it. -/
  indent : Int := -1
  outer : List Int := []
  /-- The number of open flow collections. -/
  flow : Nat := 0
  keyAllowed : Bool := true
  /-- The possible key of the innermost flow level, and those of the levels around it. -/
  possible : Option PossibleKey := none
  possibleOuter : List (Option PossibleKey) := []
  /-- The tokens in reverse. -/
  tokens : List Token := []

namespace Scanner

/-- Pass over one character of a line. -/
def advance (s : Scanner) : Scanner :=
  { s with rest := s.rest.drop 1, index := s.index + 1, column := s.column + 1 }

/-- Pass over `n` characters of a line. -/
def advanceBy (s : Scanner) (n : Nat) : Scanner :=
  { s with rest := s.rest.drop n, index := s.index + n, column := s.column + n }

def advanceLine (s : Scanner) : Scanner :=
  match s.rest with
  | '\r' :: '\n' :: rest => { s with rest, index := s.index + 2, line := s.line + 1, column := 0 }
  | _ => { s with rest := s.rest.drop 1, index := s.index + 1, line := s.line + 1, column := 0 }

def emit (s : Scanner) (t : Token) : Scanner :=
  { s with tokens := t :: s.tokens }

/-- Insert a token behind the first `position` ones. -/
def insert (s : Scanner) (position : Nat) (t : Token) : Scanner :=
  let later := s.tokens.length - position
  { s with tokens := s.tokens.take later ++ t :: s.tokens.drop later }

/-- Give up the possible key, unless a key has to stand there. -/
def dropKey (s : Scanner) : Option Scanner :=
  match s.possible with
  | some k => if k.required then none else some { s with possible := none }
  | none => some s

/-- Take note that a key may start here. -/
def saveKey (s : Scanner) : Option Scanner :=
  if s.keyAllowed then do
    let s ← s.dropKey
    let required := s.flow == 0 && s.indent == (s.column : Int)
    return { s with possible := some ⟨required, s.tokens.length, s.index, s.line, s.column⟩ }
  else some s

/-- A key has to end in the line in which it starts. -/
def dropStaleKey (s : Scanner) : Option Scanner :=
  match s.possible with
  | some k => if k.line < s.line ∨ k.index + 1024 < s.index then s.dropKey else some s
  | none => some s

/-- Open a block collection at a column, unless one is open there. -/
def indentTo (s : Scanner) (column : Nat) (position : Nat) (t : Token) : Scanner :=
  if s.flow = 0 ∧ s.indent < column then
    { s.insert position t with indent := column, outer := s.indent :: s.outer }
  else s

/-- Close the block collections that are indented deeper than a column, given those around the
innermost one. -/
def unindentFrom (s : Scanner) (column : Int) : List Int → Scanner
  | [] => s
  | i :: outer =>
    if column < s.indent then unindentFrom { s.emit .blockEnd with indent := i, outer } column outer
    else s

/-- Close the block collections that are indented deeper than a column. -/
def unindentTo (s : Scanner) (column : Int) : Scanner :=
  if s.flow = 0 then s.unindentFrom column s.outer else s

def atDocumentMark (s : Scanner) : Bool :=
  s.column == 0 && match s.rest with
    | '-' :: '-' :: '-' :: rest => endsWord rest
    | '.' :: '.' :: '.' :: rest => endsWord rest
    | _ => false

/-! ## Plain scalars and scalars in quotes -/

/-- A scalar that goes over several lines: its text so far and the blanks behind it, in reverse, the
first line break behind those, and the further ones, in reverse too. -/
structure Folded where
  text : List Char := []
  blanks : List Char := []
  /-- An escaped line break counts for nothing. -/
  lead : Option (List Char) := none
  more : List Char := []

/-- Take in the blanks or line breaks in front of more text. A single line break counts as a space,
and of several the first one counts for nothing. -/
def Folded.join (f : Folded) : Folded :=
  match f.lead with
  | none => { text := f.blanks ++ f.text }
  | some ['\n'] => { text := (if f.more.isEmpty then [' '] else f.more) ++ f.text }
  | some lead => { text := f.more ++ lead ++ f.text }

/-- Take in a character of the text. -/
def Folded.push (f : Folded) (c : Char) : Folded :=
  let f := f.join
  { f with text := c :: f.text }

/-- Take in a blank; behind a line break it is indentation. -/
def Folded.blank (f : Folded) (c : Char) : Folded :=
  if f.lead.isNone then { f with blanks := c :: f.blanks } else f

def Folded.newline (f : Folded) (c : Char) : Folded :=
  if f.lead.isNone then { f with blanks := [], lead := some [breakChar c] }
  else { f with more := breakChar c :: f.more }

/-- A character that ends a plain scalar inside a flow collection. -/
def isFlowMark (c : Char) : Bool :=
  c == ',' || c == '[' || c == ']' || c == '\x7b' || c == '\x7d'

/-- Scan a plain scalar; the fuel bounds its length. -/
def plainUpTo : Nat → Scanner → Folded → Option (Scanner × Folded)
  | 0, s, f => some (s, f)
  | fuel + 1, s, f =>
    match s.rest with
    | [] => some (s, f)
    | c :: rest =>
      if isBreak c then plainUpTo fuel s.advanceLine (f.newline c)
      else if isBlank c then
        if f.lead.isSome && decide ((s.column : Int) < s.indent + 1) && c == '\t' then none
        else plainUpTo fuel s.advance (f.blank c)
      else
        let between := f.lead.isSome || !f.blanks.isEmpty
        let ends := s.flow == 0 && decide ((s.column : Int) < s.indent + 1)
        if between && (ends || s.atDocumentMark || c == '#') then some (s, f)
        else if s.flow ≠ 0 ∧ c = ':' ∧ rest.head?.any (fun d => isFlowMark d || d == '?') then none
        else if (c = ':' ∧ endsWord rest) ∨ (s.flow ≠ 0 ∧ isFlowMark c) then some (s, f)
        else plainUpTo fuel s.advance (f.push c)

/-- Scan a plain scalar. Behind one that ends with a line break a key may start. -/
def plain (s : Scanner) : Option Scanner := do
  let s ← s.saveKey
  let (s, f) ← plainUpTo (s.rest.length + 1) { s with keyAllowed := false } {}
  return { s with keyAllowed := f.lead.isSome }.emit (.scalar (String.ofList f.text.reverse) true)

/-- The character that `n` hexadecimal digits stand for, and what follows. -/
def hexEscape (n : Nat) (cs : List Char) : Option (Char × Nat) :=
  let ds := cs.take n
  if ds.length = n ∧ ds.all (fun d => (Text.hexValue d).isSome) then
    let code := ds.foldl (fun acc d => 16 * acc + (Text.hexValue d).getD 0) 0
    if code.isValidChar then some (Char.ofNat code, n + 1) else none
  else none

/-- The character that an escape stands for, given what follows the backslash, and the length of the
escape without the backslash. -/
def escape : List Char → Option (Char × Nat)
  | '0' :: _ => some ('\x00', 1)
  | 'a' :: _ => some ('\x07', 1)
  | 'b' :: _ => some ('\x08', 1)
  | 't' :: _ => some ('\t', 1)
  | '\t' :: _ => some ('\t', 1)
  | 'n' :: _ => some ('\n', 1)
  | 'v' :: _ => some ('\x0b', 1)
  | 'f' :: _ => some ('\x0c', 1)
  | 'r' :: _ => some ('\r', 1)
  | 'e' :: _ => some ('\x1b', 1)
  | ' ' :: _ => some (' ', 1)
  | '"' :: _ => some ('"', 1)
  | '/' :: _ => some ('/', 1)
  | '\\' :: _ => some ('\\', 1)
  | 'N' :: _ => some ('\x85', 1)
  | '_' :: _ => some ('\xa0', 1)
  | 'L' :: _ => some ('\u2028', 1)
  | 'P' :: _ => some ('\u2029', 1)
  | 'x' :: cs => hexEscape 2 cs
  | 'u' :: cs => hexEscape 4 cs
  | 'U' :: cs => hexEscape 8 cs
  | _ => none

/-- Scan a scalar in quotes behind its opening quote; the fuel bounds its length. -/
def quotedUpTo (quote : Char) : Nat → Scanner → Folded → Option (Scanner × Folded)
  | 0, _, _ => none
  | fuel + 1, s, f =>
    if s.atDocumentMark then none
    else
      match s.rest with
      | [] => none
      | c :: rest =>
        if isBreak c then quotedUpTo quote fuel s.advanceLine (f.newline c)
        else if isBlank c then quotedUpTo quote fuel s.advance (f.blank c)
        else if c = quote then
          if quote = '\'' ∧ rest.head? = some '\'' then
            quotedUpTo quote fuel (s.advanceBy 2) (f.push '\'')
          else some (s.advance, f.join)
        else if quote = '"' ∧ c = '\\' then
          if rest.head?.any isBreak then
            quotedUpTo quote fuel s.advance.advanceLine { f.join with lead := some [] }
          else
            match escape rest with
            | some (d, n) => quotedUpTo quote fuel (s.advanceBy (n + 1)) (f.push d)
            | none => none
        else quotedUpTo quote fuel s.advance (f.push c)

def quoted (s : Scanner) (quote : Char) : Option Scanner := do
  let s ← s.saveKey
  let s := { s with keyAllowed := false }.advance
  let (s, f) ← quotedUpTo quote (s.rest.length + 1) s {}
  return s.emit (.scalar (String.ofList f.text.reverse) false)

/-! ## Block scalars -/

/-- What the header of a block scalar says: whether it is folded, which line breaks at the end count
(`none` stands for the first one alone), and how deep its text is indented. -/
structure BlockHeader where
  folded : Bool
  keep : Option Bool
  indent : Option Nat

/-- Take in one character of a header. -/
def BlockHeader.step (h : BlockHeader) (c : Char) : Option BlockHeader :=
  if (c = '+' ∨ c = '-') ∧ h.keep.isNone then some { h with keep := some (c == '+') }
  else if '1' ≤ c ∧ c ≤ '9' ∧ h.indent.isNone then
    some { h with indent := some (c.toNat - '0'.toNat) }
  else none

/-- The line breaks in front of the next line of text, in reverse. An indentation that is not known
yet is that of the deepest of these lines. -/
def blockBreaks (indent : Option Nat) (deepest : Nat) :
    Nat → Scanner → List Char → Option (Scanner × List Char × Nat)
  | 0, _, _ => none
  | fuel + 1, s, breaks =>
    let spaces := (s.rest.takeWhile (· == ' ')).length
    let n := match indent with
      | some i => min spaces (i - s.column)
      | none => spaces
    let s := s.advanceBy n
    let deepest := max deepest s.column
    let shallow := match indent with
      | some i => decide (s.column < i)
      | none => true
    match s.rest with
    | c :: _ =>
      if shallow && c == '\t' then none
      else if isBreak c then blockBreaks indent deepest fuel s.advanceLine (breakChar c :: breaks)
      else some (s, breaks, deepest)
    | [] => some (s, breaks, deepest)

/-- The lines of a block scalar: its text in reverse with the line break behind it, and whether that
line started with a blank. -/
def blockLines (h : BlockHeader) (indent : Nat) :
    Nat → Scanner → List Char → List Char → List Char → Bool →
      Option (Scanner × List Char × List Char × List Char)
  | 0, _, _, _, _, _ => none
  | fuel + 1, s, text, lead, breaks, leadBlank =>
    match s.rest with
    | [] => some (s, text, lead, breaks)
    | c :: _ =>
      if s.column ≠ indent then some (s, text, lead, breaks)
      else
        let blank := isBlank c
        let joined :=
          if h.folded && lead == ['\n'] && !leadBlank && !blank then
            if breaks.isEmpty then ' ' :: text else text
          else lead ++ text
        let text := breaks ++ joined
        let line := s.rest.takeWhile fun c => !isBreak c
        let s := s.advanceBy line.length
        let (s, lead) := match s.rest with
          | c :: _ => (s.advanceLine, [breakChar c])
          | [] => (s, [])
        match blockBreaks (some indent) 0 (s.rest.length + 1) s [] with
        | none => none
        | some (s, breaks, _) =>
          blockLines h indent fuel s (line.reverse ++ text) lead breaks blank

def block (s : Scanner) (folded : Bool) : Option Scanner := do
  let s ← s.dropKey
  let s := { s with keyAllowed := true }.advance
  let marks := s.rest.takeWhile fun c => c == '+' || c == '-' || c.isDigit
  let h ← marks.foldlM BlockHeader.step ⟨folded, none, none⟩
  let s := s.advanceBy marks.length
  let s := s.advanceBy (s.rest.takeWhile isBlank).length
  let s := match s.rest with
    | '#' :: _ => s.advanceBy (s.rest.takeWhile fun c => !isBreak c).length
    | _ => s
  let s ← match s.rest with
    | [] => some s
    | c :: _ => if isBreak c then some s.advanceLine else none
  let wanted := h.indent.map fun n => if 0 ≤ s.indent then s.indent.toNat + n else n
  let (s, breaks, deepest) ← blockBreaks wanted 0 (s.rest.length + 1) s []
  let indent := wanted.getD (max (max deepest (s.indent + 1).toNat) 1)
  let (s, text, lead, breaks) ← blockLines h indent (s.rest.length + 1) s [] [] breaks false
  let tail :=
    if h.keep = some false then [] else if h.keep = some true then breaks ++ lead else lead
  return s.emit (.scalar (String.ofList (tail ++ text).reverse) false)

/-! ## Other tokens -/

/-- Pass over white space, comments and line breaks. Tabs may not stand where a key could start. -/
def skipToToken : Nat → Scanner → Scanner
  | 0, s => s
  | fuel + 1, s =>
    match s.rest with
    | [] => s
    | c :: _ =>
      if c = ' ' ∨ (c = '\t' ∧ (s.flow ≠ 0 ∨ s.keyAllowed = false)) then skipToToken fuel s.advance
      else if c = '#' then
        skipToToken fuel (s.advanceBy (s.rest.takeWhile fun c => !isBreak c).length)
      else if isBreak c then
        let s := s.advanceLine
        skipToToken fuel (if s.flow = 0 then { s with keyAllowed := true } else s)
      else s

/-- Scan the start of a flow collection. -/
def openFlow (s : Scanner) (t : Token) : Option Scanner := do
  let s ← s.saveKey
  return ({ s with
    possible := none
    possibleOuter := s.possible :: s.possibleOuter
    flow := s.flow + 1
    keyAllowed := true }.advance).emit t

/-- Scan the end of a flow collection. -/
def closeFlow (s : Scanner) (t : Token) : Option Scanner := do
  let s ← s.dropKey
  let s := match s.possibleOuter with
    | k :: ks => { s with possible := k, possibleOuter := ks, flow := s.flow - 1 }
    | [] => s
  return ({ s with keyAllowed := false }.advance).emit t

/-- Scan the comma between the entries of a flow collection. -/
def flowEntry (s : Scanner) : Option Scanner := do
  let s ← s.dropKey
  return ({ s with keyAllowed := true }.advance).emit .flowEntry

/-- Scan the hyphen in front of an entry of a block sequence. -/
def blockEntry (s : Scanner) : Option Scanner := do
  let s ← if s.flow ≠ 0 then some s
    else if s.keyAllowed then some (s.indentTo s.column s.tokens.length .blockSequenceStart)
    else none
  let s ← s.dropKey
  return ({ s with keyAllowed := true }.advance).emit .blockEntry

/-- Scan the question mark in front of a key. -/
def explicitKey (s : Scanner) : Option Scanner := do
  let s ← if s.flow ≠ 0 then some s
    else if s.keyAllowed then some (s.indentTo s.column s.tokens.length .blockMappingStart)
    else none
  let s ← s.dropKey
  return ({ s with keyAllowed := s.flow == 0 }.advance).emit .key

/-- Scan the colon between a key and its value. -/
def value (s : Scanner) : Option Scanner :=
  match s.possible with
  | some k =>
    let s := (s.insert k.position .key).indentTo k.column k.position .blockMappingStart
    some (({ s with possible := none, keyAllowed := false }.advance).emit .value)
  | none => do
    let s ← if s.flow ≠ 0 then some s
      else if s.keyAllowed then some (s.indentTo s.column s.tokens.length .blockMappingStart)
      else none
    return ({ s with keyAllowed := s.flow == 0 }.advance).emit .value

def name (s : Scanner) (token : String → Token) : Option Scanner := do
  let s ← s.saveKey
  let s := { s with keyAllowed := false }.advance
  let cs := s.rest.takeWhile isNameChar
  let s := s.advanceBy cs.length
  let ended := endsWord s.rest || s.rest.head?.any fun c =>
    c == '?' || c == ':' || c == ',' || c == ']' || c == '\x7d' || c == '%' || c == '@' ||
      c == Char.ofNat 0x60
  if cs.isEmpty || !ended then none else return s.emit (token (String.ofList cs))

def tag (s : Scanner) : Option Scanner := do
  let s ← s.saveKey
  let s := { s with keyAllowed := false }
  let isTagChar (c : Char) : Bool := !isBlank c && !isBreak c && !(s.flow != 0 && isFlowMark c)
  let cs := s.rest.takeWhile isTagChar
  return (s.advanceBy cs.length).emit (.tag (String.ofList cs))

def documentMark (s : Scanner) (t : Token) : Option Scanner := do
  let s ← (s.unindentTo (-1)).dropKey
  return ({ s with keyAllowed := false }.advanceBy 3).emit t

def directive (s : Scanner) : Option Scanner := do
  let s ← (s.unindentTo (-1)).dropKey
  let s := { s with keyAllowed := false }
  return (s.advanceBy (s.rest.takeWhile fun c => !isBreak c).length).emit .directive

/-- A character with which no plain scalar starts. -/
def isIndicator (c : Char) : Bool :=
  isFlowMark c || c == '-' || c == '?' || c == ':' || c == '#' || c == '&' || c == '*' ||
    c == '!' || c == '|' || c == '>' || c == '\'' || c == '"' || c == '%' || c == '@' ||
    c == Char.ofNat 0x60 || isBlank c || isBreak c

/-- Scan the token that starts with a character. -/
def token (s : Scanner) (c : Char) (rest : List Char) : Option Scanner :=
  if s.column = 0 ∧ c = '%' then s.directive
  else if s.atDocumentMark then s.documentMark (if c = '-' then .documentStart else .documentEnd)
  else if c = '[' then s.openFlow .flowSequenceStart
  else if c = '\x7b' then s.openFlow .flowMappingStart
  else if c = ']' then s.closeFlow .flowSequenceEnd
  else if c = '\x7d' then s.closeFlow .flowMappingEnd
  else if c = ',' then s.flowEntry
  else if c = '-' ∧ endsWord rest then s.blockEntry
  else if c = '?' ∧ (s.flow ≠ 0 ∨ endsWord rest) then s.explicitKey
  else if c = ':' ∧ (s.flow ≠ 0 ∨ endsWord rest) then s.value
  else if c = '*' then s.name .alias
  else if c = '&' then s.name .anchor
  else if c = '!' then s.tag
  else if c = '|' ∧ s.flow = 0 then s.block false
  else if c = '>' ∧ s.flow = 0 then s.block true
  else if c = '\'' ∨ c = '"' then s.quoted c
  else if !isIndicator c || (c == '-' && !rest.head?.any isBlank) ||
      (s.flow == 0 && (c == '?' || c == ':') && !endsWord rest) then s.plain
  else none

def finish (s : Scanner) : Option Scanner :=
  ({ s with line := s.line + 1, column := 0 }.unindentTo (-1)).dropKey

/-- Scan a text; every step takes in at least one token. -/
def run : Nat → Scanner → Option (List Token)
  | 0, _ => none
  | fuel + 1, s =>
    match (skipToToken (s.rest.length + 1) s).dropStaleKey with
    | none => none
    | some s =>
      let s := s.unindentTo s.column
      match s.rest with
      | [] => s.finish.map fun s => s.tokens.reverse
      | c :: rest => (s.token c rest).bind (run fuel)

end Scanner

def tokens (cs : List Char) : Option (List Token) :=
  if cs.all isAllowed then Scanner.run (cs.length + 1) { rest := cs } else none

end Gazetteer.Yaml
