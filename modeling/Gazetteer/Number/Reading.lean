import Gazetteer.Number.Binary64

/-!
# Reading numbers

The grammar of a double in plain text: an optional sign, then `inf`, `infinity` or `nan` in any
case, or digits with an optional point and an optional exponent. The value is the nearest double.
-/

namespace Gazetteer.Number

/-- Why a text is no number. -/
inductive ReadFault where
  | empty
  | invalid
  deriving DecidableEq, Repr

def ReadFault.message : ReadFault → String
  | .empty => "cannot parse float from empty string"
  | .invalid => "invalid float literal"

def digitValue (c : Char) : Nat :=
  c.toNat - '0'.toNat

/-- The number that digits spell, continuing after `acc`. -/
def ofDigits (acc : Nat) (ds : List Char) : Nat :=
  ds.foldl (fun n c => 10 * n + digitValue c) acc

/-- Split off a sign; the flag says whether it is a minus. -/
def splitSign : List Char → Bool × List Char
  | '-' :: rest => (true, rest)
  | '+' :: rest => (false, rest)
  | rest => (false, rest)

/-- The exponent part of a number: nothing, or `e` and a signed run of digits. -/
def readExponent : List Char → Option Int
  | [] => some 0
  | c :: rest =>
    if c = 'e' ∨ c = 'E' then
      let (negative, ds) := splitSign rest
      if !ds.isEmpty && ds.all Char.isDigit then
        let n : Int := ofDigits 0 ds
        some (if negative then -n else n)
      else none
    else none

def readUnsigned (negative : Bool) (cs : List Char) : Option Float :=
  let whole := cs.takeWhile Char.isDigit
  let rest := cs.dropWhile Char.isDigit
  let (fraction, tail) := match rest with
    | '.' :: more => (more.takeWhile Char.isDigit, more.dropWhile Char.isDigit)
    | _ => ([], rest)
  if whole.isEmpty && fraction.isEmpty then none
  else do
    let e ← readExponent tail
    return nearestDecimal negative (ofDigits 0 (whole ++ fraction)) (e - fraction.length)

def readSpecial (negative : Bool) (cs : List Char) : Option Float :=
  let word := String.ofList (cs.map Char.toLower)
  if word = "inf" ∨ word = "infinity" then
    some (if negative then -(1.0 / 0.0) else 1.0 / 0.0)
  else if word = "nan" then some (0.0 / 0.0)
  else none

def read (cs : List Char) : Except ReadFault Float :=
  if cs.isEmpty then .error .empty
  else
    let (negative, body) := splitSign cs
    match (readSpecial negative body).or (readUnsigned negative body) with
    | some x => .ok x
    | none => .error .invalid

end Gazetteer.Number
