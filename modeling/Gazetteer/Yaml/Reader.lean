import Gazetteer.Json.Basic
import Gazetteer.Number.Reading
import Gazetteer.Yaml.Token

/-!
# Reading YAML

A YAML document as a JSON value. What a plain scalar means follows from its text: nothing, a truth
value, a number or just the text. The keys of a mapping are the texts of their scalars, and of two
equal keys the later one counts. Infinite numbers and those that are none become null.
-/

namespace Gazetteer.Yaml

/-! ## Scalars -/

/-- The digits of a number in one of the bases that have a mark of their own, and the base. -/
def basedDigits (cs : List Char) : Option (Nat × List Char) :=
  match cs with
  | '0' :: 'x' :: ds => some (16, ds)
  | '0' :: 'o' :: ds => some (8, ds)
  | '0' :: 'b' :: ds => some (2, ds)
  | _ => none

/-- The number that digits of a base spell. -/
def ofBase (base : Nat) (ds : List Char) : Option Nat :=
  let isDigit (c : Char) : Bool := (Text.hexValue c).any fun v => decide (v < base)
  if !ds.isEmpty && ds.all isDigit then
    some (ds.foldl (fun n c => base * n + (Text.hexValue c).getD 0) 0)
  else none

/-- Whether a text consists of digits but is no number, because it starts with a zero. -/
def isPaddedDigits (cs : List Char) : Bool :=
  let body := match cs with
    | '-' :: rest | '+' :: rest => rest
    | rest => rest
  match body with
  | '0' :: d :: rest => (d :: rest).all Char.isDigit
  | _ => false

/-- The whole number that a text spells. -/
def wholeNumber (cs : List Char) : Option Int :=
  let (negative, body) := match cs with
    | '-' :: rest => (true, rest)
    | '+' :: rest => (false, rest)
    | rest => (false, rest)
  let magnitude := match basedDigits body with
    | some (base, ds) => ofBase base ds
    | none => if isPaddedDigits body then none else ofBase 10 body
  magnitude.map fun n => if negative then -(n : Int) else n

/-- The other number that a text spells. -/
def otherNumber (cs : List Char) : Option Float :=
  let word := String.ofList (match cs with
    | '+' :: rest => rest
    | rest => rest)
  if word = ".inf" ∨ word = ".Inf" ∨ word = ".INF" then some (1.0 / 0.0)
  else if word = "-.inf" ∨ word = "-.Inf" ∨ word = "-.INF" then some (-(1.0 / 0.0))
  else if word = ".nan" ∨ word = ".NaN" ∨ word = ".NAN" then some (0.0 / 0.0)
  else
    match cs with
    | '+' :: '+' :: _ | '+' :: '-' :: _ => none
    | _ =>
      match Number.read word.toList with
      | .ok x => if x.isFinite then some x else none
      | .error _ => none

/-- The value of a plain scalar. A whole number beyond 64 bits that fits 128 is refused. -/
def plainValue (text : String) : Option Json :=
  let cs := text.toList
  if text = "" ∨ text = "~" ∨ text = "null" ∨ text = "Null" ∨ text = "NULL" then some .null
  else if text = "true" ∨ text = "True" ∨ text = "TRUE" then some (.bool true)
  else if text = "false" ∨ text = "False" ∨ text = "FALSE" then some (.bool false)
  else
    let orOther : Option Json :=
      if isPaddedDigits cs then some (.str text)
      else
        match otherNumber cs with
        | some x => some (Json.ofFloat x)
        | none => some (.str text)
    match wholeNumber cs with
    | some n =>
      if Int64.minValue.toInt ≤ n ∧ n < UInt64.size then some (.int n)
      else if -Int.pow 2 127 ≤ n ∧ n < Int.pow 2 128 then none
      else orOther
    | none => orOther

/-- The value of a scalar with a tag. -/
def taggedValue (tag text : String) (plain : Bool) : Option Json :=
  let scalar := plainValue text
  if tag = "!!str" ∨ tag = "!" then some (.str text)
  else if tag = "!!null" then scalar.filter fun j => match j with | .null => true | _ => false
  else if tag = "!!bool" then scalar.filter fun j => match j with | .bool _ => true | _ => false
  else if tag = "!!int" then scalar.filter fun j => match j with | .int _ => true | _ => false
  else if tag = "!!float" then (otherNumber text.toList).map Json.ofFloat
  else if tag.startsWith "!!" then if plain then scalar else some (.str text)
  else none

/-! ## Nodes -/

/-- A node: its value, and its text if it is a scalar. -/
structure Node where
  value : Json
  text : Option String

/-- The tokens that are left, and the nodes that have an anchor. -/
structure Input where
  tokens : List Token
  anchors : List (String × Node)

/-- The anchor and the tag in front of a node. -/
structure Properties where
  anchor : Option String := none
  tag : Option String := none

/-- Read the anchor and the tag in front of a node, in either order. -/
def readProperties : List Token → Properties × List Token
  | .anchor a :: .tag t :: ts => (⟨some a, some t⟩, ts)
  | .tag t :: .anchor a :: ts => (⟨some a, some t⟩, ts)
  | .anchor a :: ts => (⟨some a, none⟩, ts)
  | .tag t :: ts => (⟨none, some t⟩, ts)
  | ts => ({}, ts)

def scalarNode (p : Properties) (text : String) (plain : Bool) : Option Node :=
  let value := match p.tag with
    | some tag => taggedValue tag text plain
    | none => if plain then plainValue text else some (.str text)
  value.map (⟨·, some text⟩)

def missing : Node := ⟨.null, some ""⟩

/-- Whether a collection may have a tag. -/
def Properties.fitCollection (p : Properties) : Bool :=
  match p.tag with
  | some tag => tag == "!" || tag.startsWith "!!"
  | none => true

def Input.define (i : Input) (p : Properties) (n : Node) : Input :=
  match p.anchor with
  | some a => { i with anchors := (a, n) :: i.anchors }
  | none => i

/-- Whether a flow entry or the end of a flow sequence follows. -/
def endsFlowItem : List Token → Bool
  | .flowEntry :: _ | .flowSequenceEnd :: _ => true
  | _ => false

/-- Whether a flow entry or the end of a flow mapping follows. -/
def endsFlowPair : List Token → Bool
  | .flowEntry :: _ | .flowMappingEnd :: _ => true
  | _ => false

/-- Whether the next part of a block mapping follows. -/
def endsBlockPart : List Token → Bool
  | .key :: _ | .value :: _ | .blockEnd :: _ => true
  | _ => false

/-- Whether the next entry of a block sequence follows. -/
def endsBlockItem : List Token → Bool
  | .blockEntry :: _ | .blockEnd :: _ => true
  | _ => false

mutual

/-- Read a node. `block` allows block collections, and `loose` a sequence without indentation of its
own. The fuel bounds the number of steps, `depth` the nesting. -/
def readNode (fuel depth : Nat) (block loose : Bool) (i : Input) : Option (Node × Input) :=
  match fuel, depth with
  | fuel + 1, depth + 1 =>
    match i.tokens with
    | .alias a :: ts => do
      let n ← (i.anchors.find? (·.1 == a)).map (·.2)
      return (n, { i with tokens := ts })
    | ts =>
      let (p, ts) := readProperties ts
      let i := { i with tokens := ts }
      let named (r : Option (Node × Input)) : Option (Node × Input) :=
        r.map fun (n, i) => (n, i.define p n)
      let collection (r : Option (Json × Input)) : Option (Node × Input) :=
        if p.fitCollection then named (r.map fun (j, i) => (⟨j, none⟩, i)) else none
      match ts with
      | .blockEntry :: _ =>
        if loose then collection (readLoose fuel depth [] i)
        else if p.anchor.isSome || p.tag.isSome then named ((scalarNode p "" true).map (·, i))
        else none
      | .scalar text plain :: ts =>
        named ((scalarNode p text plain).map (·, { i with tokens := ts }))
      | .flowSequenceStart :: ts =>
        collection (readFlowItems fuel depth true [] { i with tokens := ts })
      | .flowMappingStart :: ts =>
        collection (readFlowPairs fuel depth true [] { i with tokens := ts })
      | .blockSequenceStart :: ts =>
        if block then collection (readBlockItems fuel depth [] { i with tokens := ts }) else none
      | .blockMappingStart :: ts =>
        if block then collection (readBlockPairs fuel depth [] { i with tokens := ts }) else none
      | _ =>
        if p.anchor.isSome || p.tag.isSome then named ((scalarNode p "" true).map (·, i)) else none
  | _, _ => none

/-- Read the entries of a sequence without indentation of its own. -/
def readLoose (fuel depth : Nat) (items : List Json) (i : Input) : Option (Json × Input) :=
  match fuel with
  | 0 => none
  | fuel + 1 =>
    match i.tokens with
    | .blockEntry :: ts =>
      let i := { i with tokens := ts }
      if endsBlockItem ts || endsBlockPart ts then readLoose fuel depth (.null :: items) i
      else
        match readNode fuel depth true false i with
        | some (n, i) => readLoose fuel depth (n.value :: items) i
        | none => none
    | _ => some (.arr items.reverse, i)

/-- Read the entries of a block sequence. -/
def readBlockItems (fuel depth : Nat) (items : List Json) (i : Input) : Option (Json × Input) :=
  match fuel with
  | 0 => none
  | fuel + 1 =>
    match i.tokens with
    | .blockEntry :: ts =>
      let i := { i with tokens := ts }
      if endsBlockItem ts then readBlockItems fuel depth (.null :: items) i
      else
        match readNode fuel depth true false i with
        | some (n, i) => readBlockItems fuel depth (n.value :: items) i
        | none => none
    | .blockEnd :: ts => some (.arr items.reverse, { i with tokens := ts })
    | _ => none

/-- Read the pairs of a block mapping. -/
def readBlockPairs (fuel depth : Nat) (fields : List (String × Json)) (i : Input) :
    Option (Json × Input) :=
  match fuel with
  | 0 => none
  | fuel + 1 =>
    match i.tokens with
    | .blockEnd :: ts => some (.obj fields, { i with tokens := ts })
    | ts =>
      let key : Option (Node × Input) := match ts with
        | .key :: ts =>
          let i := { i with tokens := ts }
          if endsBlockPart ts then some (missing, i) else readNode fuel depth true true i
        | .value :: _ => some (missing, i)
        | _ => none
      match key with
      | none => none
      | some (key, i) =>
        let value : Option (Node × Input) := match i.tokens with
          | .value :: ts =>
            let i := { i with tokens := ts }
            if endsBlockPart ts then some (missing, i) else readNode fuel depth true true i
          | _ => some (missing, i)
        match key.text, value with
        | some key, some (value, i) =>
          readBlockPairs fuel depth (Entries.insert key value.value fields) i
        | _, _ => none

/-- Read the entries of a flow sequence; `first` says that no comma is due. -/
def readFlowItems (fuel depth : Nat) (first : Bool) (items : List Json) (i : Input) :
    Option (Json × Input) :=
  match fuel with
  | 0 => none
  | fuel + 1 =>
    match i.tokens with
    | .flowSequenceEnd :: ts => some (.arr items.reverse, { i with tokens := ts })
    | ts =>
      let entry : Option (List Token) := match first, ts with
        | true, ts => some ts
        | false, .flowEntry :: ts => some ts
        | false, _ => none
      match entry with
      | none => none
      | some (.flowSequenceEnd :: ts) => some (.arr items.reverse, { i with tokens := ts })
      | some (.key :: ts) =>
        let i := { i with tokens := ts }
        let key : Option (Node × Input) := match ts with
          | .value :: _ => some (missing, i)
          | _ => if endsFlowItem ts then some (missing, i) else readNode fuel depth false false i
        match key with
        | none => none
        | some (key, i) =>
          let value : Option (Node × Input) := match i.tokens with
            | .value :: ts =>
              let i := { i with tokens := ts }
              if endsFlowItem ts then some (missing, i) else readNode fuel depth false false i
            | _ => some (missing, i)
          match key.text, value with
          | some key, some (value, i) =>
            readFlowItems fuel depth false (.obj [(key, value.value)] :: items) i
          | _, _ => none
      | some ts =>
        match readNode fuel depth false false { i with tokens := ts } with
        | some (n, i) => readFlowItems fuel depth false (n.value :: items) i
        | none => none

/-- Read the pairs of a flow mapping; `first` says that no comma is due. -/
def readFlowPairs (fuel depth : Nat) (first : Bool) (fields : List (String × Json)) (i : Input) :
    Option (Json × Input) :=
  match fuel with
  | 0 => none
  | fuel + 1 =>
    match i.tokens with
    | .flowMappingEnd :: ts => some (.obj fields, { i with tokens := ts })
    | ts =>
      let entry : Option (List Token) := match first, ts with
        | true, ts => some ts
        | false, .flowEntry :: ts => some ts
        | false, _ => none
      match entry with
      | none => none
      | some (.flowMappingEnd :: ts) => some (.obj fields, { i with tokens := ts })
      | some ts =>
        let key : Option (Node × Input) := match ts with
          | .key :: ts =>
            let i := { i with tokens := ts }
            match ts with
            | .value :: _ => some (missing, i)
            | _ => if endsFlowPair ts then some (missing, i) else readNode fuel depth false false i
          | ts => readNode fuel depth false false { i with tokens := ts }
        match key with
        | none => none
        | some (key, i') =>
          let value : Option (Node × Input) := match ts, i'.tokens with
            | .key :: _, .value :: ts =>
              let i := { i' with tokens := ts }
              if endsFlowPair ts then some (missing, i) else readNode fuel depth false false i
            | _, _ => some (missing, i')
          match key.text, value with
          | some key, some (value, i) =>
            readFlowPairs fuel depth false (Entries.insert key value.value fields) i
          | _, _ => none

end

/-! ## Documents -/

def maxDepth : Nat := 128

/-- Read a text that holds one document. -/
def read (cs : List Char) : Option Json := do
  let ts ← tokens cs
  let body := match ts with
    | .documentStart :: rest => rest
    | ts => match ts.dropWhile (· == .directive) with
      | .documentStart :: rest => rest
      | _ => ts
  match ts, body with
  | [], _ => none
  | _, [] => some .null
  | _, _ =>
    let (n, i) ← readNode (4 * ts.length + 4) (maxDepth + 1) true false ⟨body, []⟩
    match i.tokens with
    | [] | [.documentEnd] => some n.value
    | _ => none

end Gazetteer.Yaml
