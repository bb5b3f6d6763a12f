import RuleEngine.Decimal.Nearest

/-!
# RuleEngine.Decimal.Scaled

Reading a decimal by floating-point arithmetic, as readers of JSON do that favour speed:

1. digits are gathered from the front into an unsigned 64-bit significand while they fit
   it; digits of the whole part that do not fit count as zeros, digits of the fraction
   that do not fit are dropped;
2. the significand is rounded to a double;
3. that double is multiplied or divided by a power of ten, which rounds once more.

The result is the nearest double when the significand and the power of ten are doubles
themselves, as with 15 digits and a power up to `10 ^ 22`.  In general it may be a
neighbour of that, because of the digits dropped and because of the two roundings.
-/

namespace RuleEngine.Decimal

/-- The double nearest to `10 ^ n`, for `n` up to 308. -/
def powerOfTen (n : Nat) : Float := (ofRatio false (Nat.pow 10 n) 1).getD 0

/-- Appends digits to a significand while the result fits; gives the digits that are
left, from the first that does not fit. -/
def gather (significand : UInt64) : List Char → UInt64 × List Char
  | [] => (significand, [])
  | digit :: digits =>
    let next := significand.toNat * 10 + (digit.toNat - '0'.toNat)
    if h : next < UInt64.size then gather (.ofNatLT next h) digits
    else (significand, digit :: digits)

/-- Divides by `10 ^ rest` and `steps` times by `10 ^ 308`, the latter first; zero is not
divided further. -/
def divideSteps (x : Float) (rest : Nat) : (steps : Nat) → Float
  | 0 => x / powerOfTen rest
  | steps + 1 => if x == 0 then x else divideSteps (x / powerOfTen 308) rest steps

/-- `x · 10 ^ exponent` for `x` that is not negative, rounded at each step; `none` on
overflow. -/
def scale (x : Float) (exponent : Int) : Option Float :=
  match exponent with
  | .ofNat n =>
    if n ≤ 308 then
      let product := x * powerOfTen n
      if product.isInf then none else some product
    else if x == 0 then some x else none
  | .negSucc n => some (divideSteps x (n % 308 + 1) (n / 308))

/-- The double that `± whole.fraction · 10 ^ power` is read as; `none` on overflow.  The power
of ten is counted without bound; a 32-bit count that stays at its limits comes to the same for
texts of fewer than `2 ^ 31` characters. -/
def scaled (negative : Bool) (whole fraction : List Char) (power : Int) : Option Float :=
  let (significand, uncounted) := gather 0 whole
  let (significand, dropped) := gather significand fraction
  let places : Int := fraction.length - dropped.length
  (scale significand.toFloat (uncounted.length - places + power)).map fun x =>
    if negative then -x else x

end RuleEngine.Decimal
