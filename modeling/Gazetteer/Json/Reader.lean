import Gazetteer.Json.Basic
import Gazetteer.Number.Reading
import Gazetteer.Text.Hex

/-!
# Reading JSON text

A text is cut into tokens, and a stack of open containers takes the tokens one by one. Containers
nest at most `maxDepth` deep. A text is refused as a whole; what exactly is wrong with it is not
told.
-/

namespace Gazetteer.Json

/-! ## Numbers -/

/-- Take in digits while the number fits 64 bits; also says how many were taken. -/
def takeDigits (n : Nat) : List Char → Nat × Nat
  | [] => (n, 0)
  | c :: cs =>
    let n' := 10 * n + Number.digitValue c
    if n' < UInt64.size then
      let (m, used) := takeDigits n' cs
      (m, used + 1)
    else (n, 0)

/-- Scale by a power of ten, one multiplication or division at a time, each by at most `10 ^ 308`.
A number beyond the range of doubles is refused, one below it becomes zero. -/
def scale (x : Float) (e : Int) : Option Float :=
  if e.natAbs ≤ 308 then
    let power := Number.nearestDecimal false 1 e.natAbs
    let y := if 0 ≤ e then x * power else x / power
    if y.isInf then none else some y
  else if x == 0 then some x
  else if 0 ≤ e then none
  else scale (x / Number.nearestDecimal false 1 308) (e + 308)
  termination_by (-e).toNat

/-- The parts of a number as written. -/
structure Literal where
  negative : Bool
  whole : List Char
  fraction : Option (List Char)
  exponent : Option Int

/-- The value of a number. Without fraction and exponent it is whole, if it fits 64 bits and is not
minus zero. Otherwise the leading digits that fit 64 bits are scaled by the power of ten that puts
the point in its place. -/
def Literal.value (l : Literal) : Option Json :=
  let (n, used) := takeDigits 0 l.whole
  let complete := used == l.whole.length
  let signed (x : Float) : Json := .num (if l.negative then -x else x)
  if l.fraction.isNone && l.exponent.isNone && complete then
    if !l.negative then some (.int n)
    else if n = 0 ∨ Nat.pow 2 63 < n then some (signed (Number.nearest false n 1))
    else some (.int (-n))
  else
    let dropped := l.whole.length - used
    let (m, places) := takeDigits n (l.fraction.getD [])
    let e : Int := dropped - places + l.exponent.getD 0
    let tooLarge := decide (Nat.pow 2 31 ≤ (l.exponent.getD 0).natAbs)
    if tooLarge then
      if m ≠ 0 ∧ 0 < l.exponent.getD 0 then none else some (signed 0)
    else (scale (Number.nearest false m 1) e).map signed

/-- Read a number whose first character is a digit or a minus. -/
def readNumber (cs : List Char) : Option (Json × List Char) :=
  let (negative, body) := match cs with
    | '-' :: rest => (true, rest)
    | rest => (false, rest)
  let whole := body.takeWhile Char.isDigit
  let rest := body.dropWhile Char.isDigit
  if whole.isEmpty || (whole.head? == some '0' && whole.length != 1) then none
  else
    let fractionPart : Option (Option (List Char) × List Char) := match rest with
      | '.' :: more =>
        let ds := more.takeWhile Char.isDigit
        if ds.isEmpty then none else some (some ds, more.dropWhile Char.isDigit)
      | _ => some (none, rest)
    fractionPart.bind fun (fraction, rest) =>
      let exponentPart : Option (Option Int × List Char) := match rest with
        | c :: more =>
          if c = 'e' ∨ c = 'E' then
            let (minus, digits) := Number.splitSign more
            let ds := digits.takeWhile Char.isDigit
            if ds.isEmpty then none
            else
              let n : Int := Number.ofDigits 0 ds
              some (some (if minus then -n else n), digits.dropWhile Char.isDigit)
          else some (none, rest)
        | [] => some (none, [])
      exponentPart.bind fun (exponent, rest) =>
        (Literal.value ⟨negative, whole, fraction, exponent⟩).map (·, rest)

/-! ## Strings -/

def hex4 (a b c d : Char) : Option Nat := do
  let high := (← Text.hexValue a) * 16 + (← Text.hexValue b)
  return (high * 16 + (← Text.hexValue c)) * 16 + (← Text.hexValue d)

/-- The character that a backslash and one letter stand for. -/
def simpleEscape : Char → Option Char
  | '"' => some '"'
  | '\\' => some '\\'
  | '/' => some '/'
  | 'b' => some '\x08'
  | 'f' => some '\x0c'
  | 'n' => some '\n'
  | 'r' => some '\r'
  | 't' => some '\t'
  | _ => none

/-- Read a string up to its closing quote; `acc` holds what came before in reverse. Code points
above U+FFFF are escaped as two halves. -/
def readString (acc : List Char) : List Char → Option (String × List Char)
  | [] => none
  | '"' :: rest => some (String.ofList acc.reverse, rest)
  | '\\' :: 'u' :: a :: b :: c :: d :: rest =>
    match hex4 a b c d with
    | none => none
    | some n =>
      if 0xDC00 ≤ n ∧ n ≤ 0xDFFF then none
      else if 0xD800 ≤ n ∧ n ≤ 0xDBFF then
        match rest with
        | '\\' :: 'u' :: a :: b :: c :: d :: rest =>
          match hex4 a b c d with
          | none => none
          | some m =>
            if 0xDC00 ≤ m ∧ m ≤ 0xDFFF then
              readString (Char.ofNat (0x10000 + (n - 0xD800) * 0x400 + (m - 0xDC00)) :: acc) rest
            else none
        | _ => none
      else readString (Char.ofNat n :: acc) rest
  | '\\' :: c :: rest =>
    match simpleEscape c with
    | some e => readString (e :: acc) rest
    | none => none
  | c :: rest => if c.toNat < 32 then none else readString (c :: acc) rest

/-! ## Tokens -/

/-- A token of JSON text. -/
inductive Token where
  | openArr
  | closeArr
  | openObj
  | closeObj
  | comma
  | colon
  | scalar (j : Json)

def readToken : List Char → Option (Token × List Char)
  | [] => none
  | '[' :: rest => some (.openArr, rest)
  | ']' :: rest => some (.closeArr, rest)
  | '{' :: rest => some (.openObj, rest)
  | '}' :: rest => some (.closeObj, rest)
  | ',' :: rest => some (.comma, rest)
  | ':' :: rest => some (.colon, rest)
  | '"' :: rest => (readString [] rest).map fun (s, rest) => (.scalar (.str s), rest)
  | 't' :: 'r' :: 'u' :: 'e' :: rest => some (.scalar (.bool true), rest)
  | 'f' :: 'a' :: 'l' :: 's' :: 'e' :: rest => some (.scalar (.bool false), rest)
  | 'n' :: 'u' :: 'l' :: 'l' :: rest => some (.scalar .null, rest)
  | c :: rest => (readNumber (c :: rest)).map fun (j, rest) => (.scalar j, rest)

/-- A character that may stand between tokens. -/
def isSpace (c : Char) : Bool :=
  c == ' ' || c == '\t' || c == '\n' || c == '\r'

/-- Cut a text into at most `fuel` tokens. -/
def tokensUpTo : Nat → List Char → Option (List Token)
  | 0, _ => none
  | fuel + 1, cs =>
    match cs.dropWhile isSpace with
    | [] => some []
    | rest =>
      match readToken rest with
      | none => none
      | some (t, rest) => (tokensUpTo fuel rest).map (t :: ·)

/-- Cut a text into tokens; every token takes at least one character. -/
def tokens (cs : List Char) : Option (List Token) :=
  tokensUpTo (cs.length + 1) cs

/-! ## Structure -/

def maxDepth : Nat := 127

/-- An open container: its elements in reverse, or its fields with the key that waits for a
value. -/
inductive Frame where
  | arr (items : List Json)
  | obj (fields : List (String × Json)) (key : Option String)

inductive Expect where
  | value
  | valueOrClose
  | key
  | keyOrClose
  | colon
  | commaOrClose
  | done
  deriving DecidableEq

/-- A text read so far. -/
structure State where
  frames : List Frame
  expect : Expect
  result : Option Json

/-- Put a finished value where it belongs. -/
def State.push (s : State) (j : Json) : Option State :=
  match s.frames with
  | [] => some ⟨[], .done, some j⟩
  | .arr items :: fs => some ⟨.arr (j :: items) :: fs, .commaOrClose, none⟩
  | .obj fields (some key) :: fs =>
    some ⟨.obj (Entries.insert key j fields) none :: fs, .commaOrClose, none⟩
  | .obj _ none :: _ => none

def State.step (s : State) (t : Token) : Option State :=
  match t, s.expect with
  | .openArr, .value | .openArr, .valueOrClose =>
    if s.frames.length < maxDepth then some ⟨.arr [] :: s.frames, .valueOrClose, none⟩ else none
  | .openObj, .value | .openObj, .valueOrClose =>
    if s.frames.length < maxDepth then some ⟨.obj [] none :: s.frames, .keyOrClose, none⟩ else none
  | .scalar j, .value | .scalar j, .valueOrClose => s.push j
  | .scalar (.str key), .key | .scalar (.str key), .keyOrClose =>
    match s.frames with
    | .obj fields none :: fs => some ⟨.obj fields (some key) :: fs, .colon, none⟩
    | _ => none
  | .colon, .colon => some { s with expect := .value }
  | .comma, .commaOrClose =>
    match s.frames with
    | .arr _ :: _ => some { s with expect := .value }
    | .obj _ _ :: _ => some { s with expect := .key }
    | [] => none
  | .closeArr, .valueOrClose | .closeArr, .commaOrClose =>
    match s.frames with
    | .arr items :: fs => State.push ⟨fs, .value, none⟩ (.arr items.reverse)
    | _ => none
  | .closeObj, .keyOrClose | .closeObj, .commaOrClose =>
    match s.frames with
    | .obj fields none :: fs => State.push ⟨fs, .value, none⟩ (.obj fields)
    | _ => none
  | _, _ => none

def read (s : String) : Option Json := do
  let ts ← tokens s.toList
  let final ← ts.foldlM State.step ⟨[], .value, none⟩
  final.result

end Gazetteer.Json
