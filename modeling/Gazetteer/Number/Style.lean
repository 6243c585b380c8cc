import Gazetteer.Number.Shortest

/-!
# Number styles

How the shortest decimal of a double is laid out. A `Style` says in which range the point is written
in place, what marks a whole number and how an exponent is written; four styles are in use: `plain`
for messages and ids, `json` for JSON text, `listing` for positions shown in messages and `settings`
for settings documents.
-/

namespace Gazetteer.Number

/-- Layout of a number. `plainFrom` and `plainTo` bound the *magnitude* `e` of the numbers written
with the point in place, where `10 ^ (e - 1) ≤ |x| < 10 ^ e`. -/
structure Style where
  plainFrom : Option Int
  plainTo : Option Int
  wholeMark : String
  exponentPlus : Bool
  deriving Repr

/-- Always in place, whole numbers without a point. -/
def Style.plain : Style := ⟨none, none, "", false⟩

/-- In place from 0.00001 to below 10^16, whole numbers end in `.0`, exponents have a sign. -/
def Style.json : Style := ⟨some (-4), some 16, ".0", true⟩

/-- In place from 0.0001 to below 10^16, whole numbers end in `.0`. -/
def Style.listing : Style := ⟨some (-3), some 16, ".0", false⟩

/-- Always in place, whole numbers end in `.0`. -/
def Style.settings : Style := ⟨none, none, ".0", false⟩

/-- Whether numbers of magnitude `e` are written with the point in place. -/
def Style.inPlace (s : Style) (e : Int) : Bool :=
  (match s.plainFrom with | some lo => decide (lo ≤ e) | none => true) &&
    (match s.plainTo with | some hi => decide (e ≤ hi) | none => true)

def digitChars (n : Nat) : List Char :=
  Nat.toDigits 10 n

/-- A decimal with the point in place. -/
def Style.positional (s : Style) (d : Decimal) : List Char :=
  let ds := digitChars d.digits
  let e : Int := ds.length + d.exponent
  if 0 ≤ d.exponent then
    ds ++ List.replicate d.exponent.toNat '0' ++ s.wholeMark.toList
  else if 0 < e then
    ds.take e.toNat ++ '.' :: ds.drop e.toNat
  else
    '0' :: '.' :: List.replicate (-e).toNat '0' ++ ds

/-- A decimal with one digit before the point and an exponent. -/
def Style.scientific (s : Style) (d : Decimal) : List Char :=
  let ds := digitChars d.digits
  let e : Int := ds.length + d.exponent - 1
  let fraction := match ds.drop 1 with
    | [] => []
    | rest => '.' :: rest
  let sign := if e < 0 then ['-'] else if s.exponentPlus then ['+'] else []
  ds.take 1 ++ fraction ++ 'e' :: sign ++ digitChars e.natAbs

def Style.render (s : Style) (x : Float) : String :=
  match Binary64.ofFloat x with
  | .notANumber => "NaN"
  | .infinite negative => if negative then "-inf" else "inf"
  | .finite negative m q =>
    let d := shortest m q
    let body :=
      if m = 0 then '0' :: s.wholeMark.toList
      else if s.inPlace ((digitChars d.digits).length + d.exponent) then s.positional d
      else s.scientific d
    String.ofList (if negative then '-' :: body else body)

/-- A double as messages and ids show it. -/
def showPlain (x : Float) : String :=
  Style.plain.render x

end Gazetteer.Number
