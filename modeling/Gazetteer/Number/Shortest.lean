import Gazetteer.Number.Binary64

/-!
# The shortest decimal of a double

The decimal that a double is written with is the shortest one that reads back as that double, and of
those the nearest. Everything is counted in one unit, a power of ten small enough that the double
and the two ends of the interval that rounds to it are whole numbers of units; a grid of `10 ^ k`
units is then coarse enough exactly if one of the two grid points around the double lies in the
interval.
-/

namespace Gazetteer.Number

/-- The decimal `digits * 10 ^ exponent`. -/
structure Decimal where
  digits : Nat
  exponent : Int
  deriving DecidableEq, Repr

/-- A double and its rounding interval in units of `10 ^ (-places)`. -/
structure Interval where
  low : Nat
  value : Nat
  high : Nat
  closed : Bool
  places : Nat
  deriving DecidableEq, Repr

/-- The rounding interval of `m * 2 ^ q`. Below a power of two the neighbours are twice as close,
unless the exponent is the least; the ends belong to the double with the even mantissa. -/
def Interval.ofBinary (m : Nat) (q : Int) : Interval :=
  let e := q - 2
  let scale := if 0 ≤ e then Nat.pow 2 e.toNat else Nat.pow 5 (-e).toNat
  let below := if m = Nat.pow 2 52 ∧ -1074 < q then 1 else 2
  { low := (4 * m - below) * scale
    value := 4 * m * scale
    high := (4 * m + 2) * scale
    closed := m % 2 == 0
    places := if 0 ≤ e then 0 else (-e).toNat }

/-- Whether a number of units rounds to the double. -/
def Interval.contains (i : Interval) (n : Nat) : Bool :=
  if i.closed then decide (i.low ≤ n ∧ n ≤ i.high) else decide (i.low < n ∧ n < i.high)

/-- The nearer of the grid points around the value that lie in the interval, on the grid of
`10 ^ k` units. A point as far above as the other is below loses to the even one. -/
def Interval.onGrid (i : Interval) (k : Nat) : Option Nat :=
  let step := Nat.pow 10 k
  let below := i.value / step
  let rest := i.value % step
  match i.contains (below * step), i.contains ((below + 1) * step) with
  | true, true =>
    if 2 * rest < step ∨ (2 * rest = step ∧ below % 2 = 0) then some below
    else some (below + 1)
  | true, false => some below
  | false, true => some (below + 1)
  | false, false => none

/-- The first grid with a hit among those of `10 ^ k`, `10 ^ (k - 1)`, … units. -/
def Interval.search (i : Interval) : Nat → Nat × Nat
  | 0 => (i.value, 0)
  | k + 1 =>
    match i.onGrid (k + 1) with
    | some digits => (digits, k + 1)
    | none => i.search k

def Decimal.normalize (d : Decimal) : Decimal :=
  if h : d.digits = 0 then ⟨0, 0⟩
  else if d.digits % 10 = 0 then Decimal.normalize ⟨d.digits / 10, d.exponent + 1⟩
  else d
  termination_by d.digits
  decreasing_by exact Nat.div_lt_self (Nat.pos_of_ne_zero h) (by decide)

/-- The shortest decimal that reads back as `m * 2 ^ q`. -/
def shortest (m : Nat) (q : Int) : Decimal :=
  if m = 0 then ⟨0, 0⟩
  else
    let i := Interval.ofBinary m q
    let (digits, k) := i.search ((Nat.toDigits 10 i.value).length - 1)
    Decimal.normalize ⟨digits, (k : Int) - i.places⟩

end Gazetteer.Number
