import Gazetteer.Json.Basic
import Gazetteer.Number.Reading
import Gazetteer.Text.Hex

/-!
# TOML numbers and dates

The values that are written without quotes: truth values, whole numbers in four bases, other
numbers, and dates and times. An underscore may stand between two digits. Dates mean nothing here;
they become objects with one field that nothing asks for.
-/

namespace Gazetteer.Toml

/-- A character of a value without quotes. -/
def isScalarChar (c : Char) : Bool :=
  c.isAlphanum || c == '_' || c == '+' || c == '-' || c == '.' || c == ':'

/-! ## Numbers -/

def isGrouped (isDigit : Char → Bool) : List Char → Bool
  | [] => false
  | [c] => isDigit c
  | c :: '_' :: rest => isDigit c && isGrouped isDigit rest
  | c :: rest => isDigit c && isGrouped isDigit rest

/-- The digits of a number, without underscores. -/
def ungrouped (cs : List Char) : List Char :=
  cs.filter (· != '_')

/-- Whether a text is a whole number without sign: no zero stands in front. -/
def isWhole (cs : List Char) : Bool :=
  isGrouped Char.isDigit cs && (cs.length == 1 || cs.head? != some '0')

/-- The number that digits of a base spell. -/
def ofDigits (base : Nat) (cs : List Char) : Nat :=
  (ungrouped cs).foldl (fun n c => base * n + (Text.hexValue c).getD 0) 0

/-- A number that fits 64 bits with a sign. -/
def int64? (n : Int) : Option Json :=
  if Int64.minValue.toInt ≤ n ∧ n ≤ Int64.maxValue.toInt then some (.int n) else none

/-- The number that digits of a base spell, if they are digits of that base. -/
def readBased (base : Nat) (cs : List Char) : Option Json :=
  if isGrouped (fun c => (Text.hexValue c).any fun v => decide (v < base)) cs then
    int64? (ofDigits base cs)
  else none

def readInt (cs : List Char) : Option Json :=
  match cs with
  | '0' :: 'x' :: ds => readBased 16 ds
  | '0' :: 'o' :: ds => readBased 8 ds
  | '0' :: 'b' :: ds => readBased 2 ds
  | _ =>
    let (negative, ds) := Number.splitSign cs
    if isWhole ds then
      let n : Int := ofDigits 10 ds
      int64? (if negative then -n else n)
    else none

/-- A text, split behind the first character of a class if there is one. -/
def splitBefore (p : Char → Bool) (cs : List Char) : List Char × Option (List Char) :=
  match cs.dropWhile fun c => !p c with
  | [] => (cs, none)
  | _ :: rest => (cs.takeWhile fun c => !p c, some rest)

/-- Whether a text has the form of a number with a fraction or an exponent. -/
def isFloat (cs : List Char) : Bool :=
  let (mantissa, exponent) := splitBefore (fun c => c == 'e' || c == 'E') (Number.splitSign cs).2
  let (whole, fraction) := splitBefore (· == '.') mantissa
  isWhole whole && (fraction.isSome || exponent.isSome) &&
    fraction.all (isGrouped Char.isDigit) &&
    exponent.all fun e => isGrouped Char.isDigit (Number.splitSign e).2

/-- A number that is not whole. One that is too large does not count, but one that is too small
becomes infinite. -/
def readFloat (cs : List Char) : Option Json :=
  let (negative, word) := Number.splitSign cs
  if word = ['i', 'n', 'f'] then some (.num (if negative then -(1.0 / 0.0) else 1.0 / 0.0))
  else if word = ['n', 'a', 'n'] then some (.num (0.0 / 0.0))
  else if isFloat cs then
    match Number.read (ungrouped cs) with
    | .ok x => if x == 1.0 / 0.0 then none else some (.num x)
    | .error _ => none
  else none

/-! ## Dates -/

/-- The number that `n` digits spell at the start of a text, and what follows. -/
def readDigits (n : Nat) (cs : List Char) : Option (Nat × List Char) :=
  let ds := cs.take n
  if ds.length = n ∧ ds.all Char.isDigit then some (ofDigits 10 ds, cs.drop n) else none

def skipChar (c : Char) : List Char → Option (List Char)
  | [] => none
  | x :: rest => if x = c then some rest else none

/-- The number of days of a month. -/
def daysIn (year month : Nat) : Nat :=
  if month = 2 then
    if year % 4 = 0 ∧ (year % 100 ≠ 0 ∨ year % 400 = 0) then 29 else 28
  else if month = 4 ∨ month = 6 ∨ month = 9 ∨ month = 11 then 30
  else 31

def skipDate (cs : List Char) : Option (List Char) := do
  let (year, cs) ← readDigits 4 cs
  let (month, cs) ← readDigits 2 (← skipChar '-' cs)
  let (day, cs) ← readDigits 2 (← skipChar '-' cs)
  if 1 ≤ month ∧ month ≤ 12 ∧ 1 ≤ day ∧ day ≤ daysIn year month then some cs else none

def skipMinutes (cs : List Char) : Option (List Char) := do
  let (hour, cs) ← readDigits 2 cs
  let (minute, cs) ← readDigits 2 (← skipChar ':' cs)
  if hour ≤ 23 ∧ minute ≤ 59 then some cs else none

def skipTime (cs : List Char) : Option (List Char) := do
  let cs ← skipMinutes cs
  let (second, cs) ← readDigits 2 (← skipChar ':' cs)
  if 60 < second then none
  else
    match cs with
    | '.' :: rest =>
      if (rest.takeWhile Char.isDigit).isEmpty then none else some (rest.dropWhile Char.isDigit)
    | rest => some rest

/-- Whether a text is nothing or the distance of a local time from the universal one. -/
def isOffset : List Char → Bool
  | [] => true
  | ['Z'] | ['z'] => true
  | '+' :: rest | '-' :: rest => skipMinutes rest == some []
  | _ => false

/-- Whether a text is a date, a time, or both. -/
def isDate (cs : List Char) : Bool :=
  match skipDate cs with
  | some [] => true
  | some (c :: rest) => (c == 'T' || c == 't' || c == ' ') && (skipTime rest).any isOffset
  | none => skipTime cs == some []

def readScalar (cs : List Char) : Option Json :=
  if cs = "true".toList then some (.bool true)
  else if cs = "false".toList then some (.bool false)
  else if isDate cs then some (.obj [("date", .str (String.ofList cs))])
  else (readInt cs).or (readFloat cs)

/-- The value without quotes at the start of a text, and what follows. One space may stand between a
date and a time. -/
def readBare (cs : List Char) : Option (Json × List Char) :=
  let word := cs.takeWhile isScalarChar
  let rest := cs.dropWhile isScalarChar
  match skipDate word, rest with
  | some [], ' ' :: d :: more =>
    if d.isDigit then
      let time := (d :: more).takeWhile isScalarChar
      (readScalar (word ++ ' ' :: time)).map (·, (d :: more).dropWhile isScalarChar)
    else (readScalar word).map (·, rest)
  | _, _ => (readScalar word).map (·, rest)

end Gazetteer.Toml
