import Gazetteer.Markdown.Line

/-!
# HTML in a text

How a piece of HTML is recognized: by a tag or another mark at the start of a block, or as a
complete tag inside a line.
-/

namespace Gazetteer.Markdown

/-! ## Tags -/

def isTagNameChar (c : Char) : Bool :=
  c.isAlphanum || c == '-'

/-- A character of an attribute name behind the first. -/
def isAttributeChar (c : Char) : Bool :=
  c.isAlphanum || c == '_' || c == '.' || c == ':' || c == '-'

/-- A character of a value without quotes. -/
def isBareValueChar (c : Char) : Bool :=
  !(c == '\'' || c == '"' || c == ' ' || c == '=' || c == '>' || c == '<' || c == Char.ofNat 0x60 ||
    isLineEnd c)

/-- White space between the parts of a tag. A line end is passed with `newline`, which takes what
stands behind it; the fuel bounds the number of line ends. -/
def skipTagSpace (newline : List Char → Option (List Char)) : Nat → List Char → Option (List Char)
  | 0, _ => none
  | fuel + 1, cs =>
    match skipGap cs with
    | [] => none
    | '\r' :: '\n' :: rest => (newline rest).bind (skipTagSpace newline fuel)
    | c :: rest =>
      if isLineEnd c then (newline rest).bind (skipTagSpace newline fuel)
      else some (c :: rest)

def behindQuote (quote : Char) (cs : List Char) : Option (List Char) :=
  match cs.dropWhile (· != quote) with
  | _ :: rest => some rest
  | [] => none

def skipValue : List Char → Option (List Char)
  | '"' :: rest => behindQuote '"' rest
  | '\'' :: rest => behindQuote '\'' rest
  | cs =>
    match cs.takeWhile isBareValueChar with
    | [] => none
    | _ => some (cs.dropWhile isBareValueChar)

def skipAttribute (newline : List Char → Option (List Char)) (fuel : Nat) :
    List Char → Option (List Char)
  | [] => none
  | c :: cs =>
    if c.isAlpha || c == '_' || c == ':' then
      let name := cs.dropWhile isAttributeChar
      match skipTagSpace newline fuel name with
      | some ('=' :: rest) => (skipTagSpace newline fuel rest).bind skipValue
      | _ => some name
    else none

/-- The text behind the attributes of an opening tag, where `/` or `>` has to follow. -/
def skipAttributes (newline : List Char → Option (List Char)) : Nat → List Char → Option (List Char)
  | 0, _ => none
  | fuel + 1, cs =>
    match skipTagSpace newline fuel cs with
    | none => none
    | some rest =>
      match rest with
      | '/' :: _ | '>' :: _ => some rest
      | _ =>
        if rest.length = cs.length then none
        else (skipAttribute newline fuel rest).bind (skipAttributes newline fuel)

/-- The text behind a complete tag, given the text behind its `<`. -/
def skipTag (newline : List Char → Option (List Char)) (cs : List Char) : Option (List Char) :=
  let (closing, body) := match cs with
    | '/' :: rest => (true, rest)
    | rest => (false, rest)
  match body with
  | [] => none
  | c :: _ =>
    if !c.isAlpha then none
    else
      let named := body.dropWhile isTagNameChar
      let parts := if closing then some (skipGap named) else
        (skipAttributes newline (named.length + 2) named).map fun rest =>
          match rest with
          | '/' :: rest => rest
          | rest => rest
      match parts with
      | some ('>' :: rest) => some rest
      | _ => none

/-! ## Other marks -/

/-- The text behind the next occurrence of a mark. -/
def behind (mark : List Char) : List Char → Option (List Char)
  | [] => if mark.isEmpty then some [] else none
  | c :: cs =>
    match List.isPrefixOf? mark (c :: cs) with
    | some rest => some rest
    | none => behind mark cs

/-- The text behind a comment, given the text behind `<!--`; `>` and `->` end it at once. -/
def behindComment : List Char → Option (List Char)
  | '>' :: rest => some rest
  | '-' :: '>' :: rest => some rest
  | cs => behind ['-', '-', '>'] cs

/-- The text behind a piece of HTML inside a line, given the text behind its `<`. -/
def skipInlineHtml (newline : List Char → Option (List Char)) : List Char → Option (List Char)
  | '!' :: '-' :: '-' :: rest => behindComment rest
  | '!' :: '[' :: 'C' :: 'D' :: 'A' :: 'T' :: 'A' :: '[' :: rest => behind [']', ']', '>'] rest
  | '!' :: c :: rest => if c.isAlpha then behind ['>'] rest else none
  | '?' :: rest => behind ['?', '>'] rest
  | cs => skipTag newline cs

/-! ## Blocks -/

/-- Without regard to ASCII case, the text behind a word. -/
def behindWord (word cs : List Char) : Option (List Char) :=
  if (cs.take word.length).map Char.toLower == word then some (cs.drop word.length) else none

/-- The end mark of a block that lasts until that mark, given the text behind its `<`. -/
def blockEndMark (cs : List Char) : Option String :=
  let verbatim := ["pre", "style", "script", "textarea"].findSome? fun name =>
    match behindWord name.toList cs with
    | some [] => some s!"</{name}>"
    | some (c :: _) => if isSpace c || c == '>' then some s!"</{name}>" else none
    | none => none
  verbatim.or <| match cs with
    | '!' :: '-' :: '-' :: _ => some "-->"
    | '?' :: _ => some "?>"
    | '!' :: '[' :: 'C' :: 'D' :: 'A' :: 'T' :: 'A' :: '[' :: _ => some "]]>"
    | '!' :: c :: _ => if c.isAlpha then some ">" else none
    | _ => none

/-- The names of the elements that make a block of their own. -/
def blockElements : List String := [
  "address", "article", "aside", "base", "basefont", "blockquote", "body", "caption", "center",
  "col", "colgroup", "dd", "details", "dialog", "dir", "div", "dl", "dt", "fieldset", "figcaption",
  "figure", "footer", "form", "frame", "frameset", "h1", "h2", "h3", "h4", "h5", "h6", "head",
  "header", "hr", "html", "iframe", "legend", "li", "link", "main", "menu", "menuitem", "nav",
  "noframes", "ol", "optgroup", "option", "p", "param", "search", "section", "summary", "table",
  "tbody", "td", "tfoot", "th", "thead", "title", "tr", "track", "ul"]

/-- Whether a block element starts here, given the text behind its `<`. -/
def startsBlockElement (cs : List Char) : Bool :=
  let body := match cs with
    | '/' :: rest => rest
    | rest => rest
  let name := String.ofList ((body.takeWhile Char.isAlphanum).map Char.toLower)
  blockElements.contains name &&
    match body.dropWhile Char.isAlphanum with
    | [] => true
    | '/' :: '>' :: _ => true
    | c :: _ => c == ' ' || c == '\t' || isLineEnd c || c == '>'

/-- Whether a complete tag fills the line, given the text behind its `<`. -/
def isTagAlone (cs : List Char) : Bool :=
  match skipTag (fun _ => none) cs with
  | some rest => isBlankRest rest
  | none => false

end Gazetteer.Markdown
