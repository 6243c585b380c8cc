/-!
# Binary floating point numbers as exact fractions

A finite double is `mantissa * 2 ^ exponent` with a sign. `Binary64.ofFloat` takes a double apart
and `nearest` goes the other way: it finds the double nearest to a fraction, the even one of two
that are equally near.
-/

namespace Gazetteer.Number

/-- What the bits of a double say. -/
inductive Binary64 where
  | finite (negative : Bool) (mantissa : Nat) (exponent : Int)
  | infinite (negative : Bool)
  | notANumber
  deriving DecidableEq, Repr

/-- Take a double apart. A normal number has a hidden leading bit; a subnormal one has not, and
shares the least exponent. -/
def Binary64.ofFloat (x : Float) : Binary64 :=
  let bits := x.toBits.toNat
  let negative := decide (Nat.pow 2 63 ≤ bits)
  let field : Nat := bits / Nat.pow 2 52 % Nat.pow 2 11
  let fraction : Nat := bits % Nat.pow 2 52
  if field = 2047 then
    if fraction = 0 then .infinite negative else .notANumber
  else if field = 0 then .finite negative fraction (-1074)
  else .finite negative (fraction + Nat.pow 2 52) ((field : Int) - 1075)

/-- The quotient of two numbers rounded to the nearest integer, a half to the even one. -/
def roundHalfEven (num den : Nat) : Nat :=
  let q := num / den
  let twice := 2 * (num % den)
  if twice < den ∨ (twice = den ∧ q % 2 = 0) then q else q + 1

/-- `num / den` divided by `2 ^ e`, as numerator and denominator. -/
def scaleDown (num den : Nat) (e : Int) : Nat × Nat :=
  if 0 ≤ e then (num, den * Nat.pow 2 e.toNat) else (num * Nat.pow 2 (-e).toNat, den)

/-- The exponent of the double nearest to `num / den`: the one that gives the mantissa its full
width, or the least there is. -/
def nearestExponent (num den : Nat) : Int :=
  let guess := max ((num.log2 : Int) - den.log2 - 52) (-1074)
  let (n, d) := scaleDown num den guess
  if n / d < Nat.pow 2 52 ∧ -1074 < guess then guess - 1 else guess

/-- The double nearest to `num / den`, infinite above the largest finite one. A mantissa that
rounds up to the next power of two carries into the exponent, which is what adding it to the
exponent bits does. -/
def nearest (negative : Bool) (num den : Nat) : Float :=
  let bits :=
    if num = 0 ∨ den = 0 then 0
    else
      let e := nearestExponent num den
      let (n, d) := scaleDown num den e
      min ((e + 1074).toNat * Nat.pow 2 52 + roundHalfEven n d) (2047 * Nat.pow 2 52)
  Float.ofBits (UInt64.ofNat (if negative then Nat.pow 2 63 + bits else bits))

/-- The double nearest to `digits * 10 ^ exponent`. Beyond the range of doubles the answer is known
without writing the power out. -/
def nearestDecimal (negative : Bool) (digits : Nat) (exponent : Int) : Float :=
  let size : Int := (Nat.toDigits 10 digits).length
  if digits = 0 ∨ size + exponent < -330 then nearest negative 0 1
  else if 320 < size + exponent then nearest negative (Nat.pow 2 1024) 1
  else if 0 ≤ exponent then nearest negative (digits * Nat.pow 10 exponent.toNat) 1
  else nearest negative digits (Nat.pow 10 (-exponent).toNat)

end Gazetteer.Number
