import Gazetteer.Markdown.Block

/-!
# Running text

The second step of reading running text, when all link definitions are known. `resolveLinks` walks
over the pieces of a leaf and keeps the brackets that are open; a closing bracket turns everything
since its opening one into a link, if a target is to be found. A pair of double brackets is a wiki
link. `resolveEmphasis` then finds out which delimiters are emphasis, and so no text.
-/

namespace Gazetteer.Markdown

structure Target where
  text : List Char
  /-- Whether the link is written between double brackets. -/
  isWiki : Bool
  deriving DecidableEq, Repr

/-- A piece of running text that has been understood. -/
inductive Inline where
  | text (s : List Char)
  | code (s : List Char)
  /-- A run of delimiters, not yet matched. -/
  | delimiter (c : Char) (count : Nat) (canOpen canClose : Bool)
  | link (target : Target) (content : List (Nat × Inline))
  | image (content : List (Nat × Inline))
  /-- Something without text: a line break, HTML or a footnote mark. -/
  | other
  deriving Repr

inductive BracketKind where
  | link
  | image
  /-- A bracket around a link, which cannot become one. -/
  | disabled
  deriving DecidableEq, Repr

/-- An open bracket, known by the offset where it starts. -/
structure Bracket where
  start : Nat
  /-- The offset behind it. -/
  stop : Nat
  kind : BracketKind
  deriving Repr

/-- A piece that is understood, with its offsets. -/
structure Node where
  start : Nat
  stop : Nat
  inline : Inline
  deriving Repr

/-- The state of the walk: what is done, in reverse, and the open brackets, the latest first. -/
structure Walk where
  done : List Node := []
  brackets : List Bracket := []
  /-- The openings of possible wiki links. -/
  doubles : List Bracket := []

/-- What the walk knows about its surroundings. -/
structure Scope where
  leaf : Leaf
  /-- The text of the leaf as it stands in the source. -/
  source : List Char
  definitions : List (String × String)
  footnotes : List String

namespace Scope

/-- The source of the leaf from an offset on. -/
def sourceFrom (s : Scope) (offset : Nat) : List Char :=
  s.source.drop (offset - s.leaf.start)

def slice (s : Scope) (start stop : Nat) : List Char :=
  (s.sourceFrom start).take (stop - start)

/-- The offset of a rest of the source. -/
def offsetOf (s : Scope) (rest : List Char) : Nat :=
  s.leaf.start + (s.source.length - rest.length)

/-- Pass over the container marks behind a line end. -/
def newline (s : Scope) (cs : List Char) : Option (List Char) :=
  some (skipContainers s.leaf.containers cs)

end Scope

/-! ## Steps of the walk -/

/-- The pieces behind an offset, the first one without what lies in front of it. -/
def piecesFrom (offset : Nat) (ps : List Piece) : List Piece :=
  match ps.dropWhile fun p => decide (p.stop ≤ offset) with
  | ⟨start, stop, .text s⟩ :: rest =>
    if start < offset then ⟨offset, stop, .text (s.drop (offset - start))⟩ :: rest
    else ⟨start, stop, .text s⟩ :: rest
  | ps => ps

namespace Walk

def add (w : Walk) (start stop : Nat) (i : Inline) : Walk :=
  { w with done := ⟨start, stop, i⟩ :: w.done }

/-- No open bracket for a link can become one any more. -/
def disableLinks (w : Walk) : Walk :=
  let disable (b : Bracket) : Bracket :=
    if b.kind = .link then { b with kind := .disabled } else b
  { w with brackets := w.brackets.map disable, doubles := w.doubles.map disable }

/-- Split what is done at the node of a bracket: what follows it, in order, and what precedes it. -/
def splitAt? (w : Walk) (b : Bracket) : Option (List Node × List Node) :=
  match w.done.dropWhile fun n => n.start != b.start with
  | _ :: before => some ((w.done.takeWhile fun n => n.start != b.start).reverse, before)
  | [] => none

/-- The nodes as the content of a link. -/
def content (ns : List Node) : List (Nat × Inline) :=
  ns.map fun n => (n.start, n.inline)

/-- Put a link or image in the place of a bracket and what follows it. -/
def closeBracket (w : Walk) (b : Bracket) (before : List Node) (stop : Nat) (target : Target)
    (content : List (Nat × Inline)) : Walk :=
  let inline : Inline := if b.kind = .image then .image content else .link target content
  let w := { w with done := ⟨b.start, stop, inline⟩ :: before }
  if b.kind = .image then w else w.disableLinks

end Walk

/-- The content of a node list from an offset on; a text that reaches over it is cut. -/
def nodesFrom (offset : Nat) (ns : List Node) : List Node :=
  match ns.dropWhile fun n => decide (n.stop ≤ offset) with
  | ⟨start, stop, .text s⟩ :: rest =>
    ⟨offset, stop, .text (if start < offset then s.drop (offset - start) else s)⟩ :: rest
  | ns => ns

/-- The text of a code span: line ends are spaces, and one space at each end is dropped if both are
there and there is more. -/
def codeText (inTable : Bool) (cs : List Char) : List Char :=
  let rec unbar : List Char → List Char
    | '\\' :: '|' :: rest => if inTable then '|' :: unbar rest else '\\' :: '|' :: unbar rest
    | c :: rest => (if isLineEnd c then ' ' else c) :: unbar rest
    | [] => []
  let s := unbar cs
  if s.head? == some ' ' && s.getLast? == some ' ' && s.any (· != ' ') then s.tail.dropLast else s

/-- Try to make a wiki link that ends with the closing bracket at an offset; another one follows it.
The text is the target up to the first bar, and the content behind it. -/
def wikiLink (scope : Scope) (w : Walk) (stop : Nat) : Option Walk :=
  match w.doubles with
  | [] => none
  | b :: doubles =>
    if b.kind = .disabled then none
    else
      match w.splitAt? b with
      | none => none
      | some (inner, before) =>
        let body := inner.drop 1
        let start := match body with
          | n :: _ => n.start
          | [] => stop
        let raw := scope.slice start stop
        let name := raw.takeWhile (· != '|')
        let finish (content : List (Nat × Inline)) : Walk :=
          let inline : Inline :=
            if b.kind = .image then .image content else .link ⟨name, true⟩ content
          { w with done := ⟨b.start, stop + 2, inline⟩ :: before, doubles }.disableLinks
        match raw.dropWhile (· != '|') with
        | _ :: _ => some (finish (Walk.content (nodesFrom (start + name.length + 1) body)))
        | [] => if raw.isEmpty then none else some (finish [(start, .text raw)])

inductive Label where
  | link (text : List Char)
  | footnote (text : List Char)

def readBracketed (scope : Scope) (cs : List Char) : Option (Label × List Char) :=
  match cs with
  | '[' :: '^' :: c :: rest =>
    if c != ']' then
      match readLabel (fun _ => none) (c :: rest) with
      | some (label, rest) => some (.footnote label, rest)
      | none =>
        (readLabel scope.newline ('^' :: c :: rest)).map fun (label, rest) => (.link label, rest)
    else (readLabel scope.newline ('^' :: c :: rest)).map fun (label, rest) => (.link label, rest)
  | '[' :: rest => (readLabel scope.newline rest).map fun (label, rest) => (.link label, rest)
  | _ => none

/-- What follows the brackets of a reference link. -/
inductive Reference where
  /-- A label of its own, which ends at an offset. -/
  | full (label : List Char) (stop : Nat)
  /-- A pair of empty brackets. -/
  | collapsed
  | none

def referenceBehind (scope : Scope) (ps : List Piece) : Reference :=
  match ps with
  | [] => .none
  | p :: _ =>
    let cs := scope.sourceFrom p.start
    match cs with
    | '[' :: ']' :: _ => .collapsed
    | _ =>
      match readBracketed scope cs with
      | some (.link label, rest) => .full label (scope.offsetOf rest)
      | _ => .none

/-- No reference can end with the first closing bracket that reaches behind an offset. -/
def spoilClosing (offset : Nat) : List Piece → List Piece
  | [] => []
  | p :: ps =>
    if p.stop ≤ offset then p :: spoilClosing offset ps
    else { p with mark := .closing false } :: ps

/-- Whether a label was defined for a footnote. -/
def Scope.hasFootnote (scope : Scope) (label : List Char) : Bool :=
  scope.footnotes.any fun l => foldLabel l.toList == foldLabel label

/-- The target that a label was defined for. -/
def Scope.definition? (scope : Scope) (label : List Char) : Option String :=
  (scope.definitions.find? fun d => d.1 == foldLabel label).map (·.2)

/-- Take in a closing bracket between two offsets that ends no wiki link: a link with a target
behind it, a reference link, a footnote mark, or a plain bracket. The brackets in the walk are those
around the one that it may match. -/
def closePlain (scope : Scope) (w : Walk) (b : Bracket) (mayRefer : Bool) (start stop : Nat)
    (ps : List Piece) : Walk × List Piece :=
  let plain := w.add start stop (.text [']'])
  match w.splitAt? b with
  | none => (plain, ps)
  | some (inner, before) =>
    match readInlineTarget scope.leaf.containers scope.leaf.inTable (scope.sourceFrom stop) with
    | some (target, rest) =>
      let stop := scope.offsetOf rest
      (w.closeBracket b before stop ⟨target, false⟩ (Walk.content inner), piecesFrom stop ps)
    | none =>
      let reference := referenceBehind scope ps
      let labelStart := b.stop - 1
      let own : Option Label := match readBracketed scope (scope.slice labelStart stop) with
        | some (label, []) => some label
        | _ => none
      let (label, behind, after, viable) : Option Label × Nat × List Piece × Bool :=
        match reference with
        | .full label stop => (some (.link label), stop, piecesFrom stop ps, true)
        | .collapsed => (own, stop, ps.drop 2, mayRefer)
        | .none => (own, stop, ps, mayRefer)
      let ps := match reference with
        | .full _ stop => spoilClosing (stop - 1) ps
        | _ => ps
      if !viable then (plain, ps)
      else
        match label with
        | none => (plain, ps)
        | some (.footnote l) =>
          if scope.hasFootnote l then
            let before :=
              if b.kind = .image then ⟨b.start, b.start + 1, .text ['!']⟩ :: before else before
            ({ w with done := ⟨labelStart, behind, .other⟩ :: before, brackets := [] }, ps)
          else (plain, ps)
        | some (.link l) =>
          match scope.definition? l with
          | some target =>
            (w.closeBracket b before behind ⟨target.toList, false⟩ (Walk.content inner), after)
          | none => (plain, ps)

def opensNext (ps : List Piece) : Bool :=
  match ps with
  | ⟨_, _, .opening⟩ :: _ => true
  | _ => false

def closesNext (ps : List Piece) : Bool :=
  match ps with
  | ⟨_, _, .closing _⟩ :: _ => true
  | _ => false

def openBracket (w : Walk) (p : Piece) (kind : BracketKind) (text : List Char) (ps : List Piece) :
    Walk :=
  let b : Bracket := ⟨p.start, p.stop, kind⟩
  let w := w.add p.start p.stop (.text text)
  { w with
    brackets := b :: w.brackets
    doubles := if opensNext ps then b :: w.doubles else w.doubles }

/-- The run of `count` code marks that closes a code span, and the pieces behind it. -/
def closingCode (count : Nat) : List Piece → Option (Piece × List Piece)
  | [] => none
  | p :: ps =>
    match p.mark with
    | .code n _ => if n = count then some (p, ps) else closingCode count ps
    | _ => closingCode count ps

/-- Take in one piece; gives the pieces that are left. -/
def takePiece (scope : Scope) (w : Walk) (p : Piece) (ps : List Piece) : Walk × List Piece :=
  match p.mark with
  | .text s => (w.add p.start p.stop (.text s), ps)
  | .entity s => (w.add p.start p.stop (.text s), ps)
  | .lineBreak => (w.add p.start p.stop .other, ps)
  | .delimiter c n opens closes => (w.add p.start p.stop (.delimiter c n opens closes), ps)
  | .code count escaped =>
    let marks := List.replicate count codeMark
    let wanted := if escaped then count - 1 else count
    match if wanted = 0 then none else closingCode wanted ps with
    | none => (w.add p.start p.stop (.text marks), ps)
    | some (close, rest) =>
      let w := if escaped then w.add p.start (p.start + 1) (.text [codeMark]) else w
      let start := if escaped then p.start + 1 else p.start
      let text := codeText scope.leaf.inTable (scope.slice p.stop close.start)
      (w.add start close.stop (.code text), rest)
  | .angle =>
    let plain := (w.add p.start p.stop (.text ['<']), ps)
    match ps with
    | [] => plain
    | next :: _ =>
      let cs := scope.sourceFrom next.start
      match (readAddress cs).or (readMail cs) with
      | some (target, rest) =>
        let stop := scope.offsetOf rest
        let inner := scope.slice (p.start + 1) (stop - 1)
        let link := .link ⟨target, false⟩ [(p.start + 1, .text inner)]
        (w.add p.start stop link, piecesFrom stop ps)
      | none =>
        match skipInlineHtml scope.newline cs with
        | some rest =>
          let stop := scope.offsetOf rest
          (w.add p.start stop .other, piecesFrom stop ps)
        | none => plain
  | .image => (openBracket w p .image ['!', '['] ps, ps)
  | .opening => (openBracket w p .link ['['] ps, ps)
  | .closing mayRefer =>
    let (top, brackets) := match w.brackets with
      | [] => (none, [])
      | b :: bs => (some b, bs)
    let w := { w with brackets }
    match if closesNext ps then wikiLink scope w p.start else none with
    | some w => (w, ps.drop 1)
    | none =>
      let w := if closesNext ps then { w with doubles := w.doubles.drop 1 } else w
      let plain := (w.add p.start p.stop (.text [']']), ps)
      match top with
      | none => plain
      | some b =>
        if b.kind = .disabled then plain
        else closePlain scope w b mayRefer p.start p.stop ps

/-- Take in the pieces of a leaf; every step uses up at least one. -/
def walkPieces (scope : Scope) : Nat → Walk → List Piece → Walk
  | fuel + 1, w, p :: ps =>
    let (w, rest) := takePiece scope w p ps
    walkPieces scope fuel w rest
  | _, w, _ => w

/-- The running text of a leaf with its links. -/
def resolveLinks (scope : Scope) : List (Nat × Inline) :=
  Walk.content (walkPieces scope scope.leaf.pieces.length {} scope.leaf.pieces).done.reverse

/-! ## Emphasis -/

/-- A run of delimiters with which emphasis may start: which run it is, how much of it is left, how
long it was. -/
structure Opener where
  index : Nat
  c : Char
  count : Nat
  run : Nat
  both : Bool
  deriving Repr

/-- Runs that stay text: which, and how many characters of them. -/
abbrev Leftovers := List (Nat × Nat)

/-- Whether a closing run matches an opening one. -/
def Opener.matches (o : Opener) (c : Char) (run : Nat) (both : Bool) : Bool :=
  o.c == c && (c != '~' || run == o.run) &&
    ((!both && !o.both) || (run + o.run) % 3 != 0 || run % 3 == 0)

/-- Match what is left of a closing run against the open ones, the innermost first; runs that are
passed over stay text. The fuel bounds the number of matches. -/
def closeEmphasis (c : Char) (run : Nat) (both : Bool) :
    Nat → Nat → List Opener → Leftovers → Nat × List Opener × Leftovers
  | 0, count, stack, left => (count, stack, left)
  | fuel + 1, count, stack, left =>
    if count = 0 then (0, stack, left)
    else
      match stack.dropWhile fun o => !o.matches c run both with
      | [] => (count, stack, left)
      | o :: below =>
        let passed := stack.takeWhile fun o => !o.matches c run both
        let left := passed.map (fun o => (o.index, o.count)) ++ left
        let n := min count o.count
        let below := if n < o.count then { o with count := o.count - n } :: below else below
        closeEmphasis c run both fuel (count - n) below left

/-- Find the runs that stay text, from the run with number `index` on. -/
def findLeftovers (index : Nat) (stack : List Opener) (left : Leftovers) :
    List (Nat × Inline) → Leftovers
  | [] => stack.map (fun o => (o.index, o.count)) ++ left
  | (_, .delimiter c count opens closes) :: rest =>
    let both := opens && closes
    let (n, stack, left) :=
      if closes then closeEmphasis c count both (count + 1) count stack left
      else (count, stack, left)
    if n = 0 then findLeftovers (index + 1) stack left rest
    else if opens then findLeftovers (index + 1) (⟨index, c, n, count, both⟩ :: stack) left rest
    else findLeftovers (index + 1) stack ((index, n) :: left) rest
  | _ :: rest => findLeftovers index stack left rest

/-! ## Events -/

/-- What is met when a text is read from start to end. -/
inductive Event where
  | openHeading (level start : Nat)
  | closeHeading
  | openLink (target : Target) (start : Nat)
  | closeLink
  | paragraph (start stop : Nat)
  | item (start stop : Nat)
  | text (s : List Char)
  | code (s : List Char)
  deriving Repr

mutual

/-- The events of one piece of running text. -/
def inlineEvents (start : Nat) : Inline → List Event
  | .text s => [.text s]
  | .code s => [.code s]
  | .delimiter _ _ _ _ => []
  | .link target content =>
    .openLink target start :: runEvents 0 (findLeftovers 0 [] [] content) content ++ [.closeLink]
  | .image content => runEvents 0 (findLeftovers 0 [] [] content) content
  | .other => []

/-- The events of running text, given the runs of delimiters that stay text; each of their
characters is a text of its own. -/
def runEvents (index : Nat) (left : Leftovers) : List (Nat × Inline) → List Event
  | [] => []
  | (start, i) :: rest =>
    match i with
    | .delimiter c _ _ _ =>
      let n := ((left.find? fun l => l.1 == index).map (·.2)).getD 0
      List.replicate n (.text [c]) ++ runEvents (index + 1) left rest
    | i => inlineEvents start i ++ runEvents index left rest

end

def leafEvents (source : Array Char) (d : Document) (leaf : Leaf) : List Event :=
  let content := resolveLinks
    { leaf, source := (source.extract leaf.start leaf.stop).toList
      definitions := d.definitions, footnotes := d.footnotes }
  runEvents 0 (findLeftovers 0 [] [] content) content

mutual

/-- The events of a block. A paragraph in a tight list counts as part of its item. -/
def blockEvents (source : Array Char) (d : Document) (tight : Bool) : Block → List Event
  | .paragraph leaf =>
    (if tight then [] else [.paragraph leaf.start leaf.stop]) ++ leafEvents source d leaf
  | .heading level leaf =>
    .openHeading level leaf.start :: leafEvents source d leaf ++ [.closeHeading]
  | .table cells => cells.flatMap (leafEvents source d)
  | .verbatim => []
  | .quote blocks => blocksEvents source d false blocks
  | .list tight items => blocksEvents source d tight items
  | .item start stop blocks => .item start stop :: blocksEvents source d tight blocks
  | .footnote blocks => blocksEvents source d false blocks

def blocksEvents (source : Array Char) (d : Document) (tight : Bool) : List Block → List Event
  | [] => []
  | b :: bs => blockEvents source d tight b ++ blocksEvents source d tight bs

end

def events (source : Array Char) : List Event :=
  let d := Document.ofText source
  blocksEvents source d false d.blocks

end Gazetteer.Markdown
