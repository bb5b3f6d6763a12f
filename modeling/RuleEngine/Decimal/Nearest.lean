/-!
# RuleEngine.Decimal.Nearest

Reading a decimal as a binary floating-point number.  A decimal is a digit
string and a power of ten; what is read is the double nearest to it, a tie
going to the even significand:

1. the value is kept as an exact ratio of naturals;
2. `ofRatio` finds the power of two that puts the significand into
   `[2 ^ 52, 2 ^ 53)` (or the least power, for subnormal results), divides
   once and rounds once;
3. a decimal whose power of ten is beyond reach of any double is settled
   without forming that power.
-/

namespace RuleEngine.Decimal

/-! ## Ratios -/

/-- `a / b` rounded to the nearest natural, a half going to the even one. -/
def divideNearest (a b : Nat) : Nat :=
  let quotient := a / b
  let remainder := a % b
  if 2 * remainder < b then quotient
  else if b < 2 * remainder then quotient + 1
  else if quotient % 2 = 0 then quotient
  else quotient + 1

/-- `a · 2 ^ k / b` for an integer `k`, as a pair of naturals. -/
def scaleRatio (a b : Nat) (k : Int) : Nat × Nat :=
  match k with
  | .ofNat n => (a <<< n, b)
  | .negSucc n => (a, b <<< (n + 1))

/-- The binary exponent of the unit in the last place of `a / b`: the
greatest that leaves at least 53 bits, and never below that of the
subnormal numbers. -/
def unitExponent (a b : Nat) : Int :=
  let guess := (a.log2 : Int) - b.log2 - 52
  let scaled := scaleRatio a b (-guess)
  max (if scaled.1 / scaled.2 < 1 <<< 52 then guess - 1 else guess) (-1074)

/-- The bit pattern of the double nearest to `a / b`; `none` where that is
beyond the greatest finite double. -/
def bitsOfRatio (a b : Nat) : Option Nat :=
  if a = 0 then some 0
  else
    let q := unitExponent a b
    let scaled := scaleRatio a b (-q)
    let m := divideNearest scaled.1 scaled.2
    let bits := if m < 1 <<< 52 then m else (q + 1074).toNat <<< 52 + m
    if bits < 0x7ff <<< 52 then some bits else none

/-- The double with the given sign nearest to `a / b`, if there is a finite
one. -/
def ofRatio (negative : Bool) (a b : Nat) : Option Float :=
  (bitsOfRatio a b).map fun bits =>
    Float.ofBits (UInt64.ofNat (if negative then bits + 1 <<< 63 else bits))

/-! ## Decimals -/

/-- The double nearest to `± digits · 10 ^ exponent`; `none` on overflow.
With `n` digits the value lies in `[10 ^ (n - 1 + exponent), 10 ^ (n + exponent))`,
so at `10 ^ 310` and above it overflows and below `10 ^ (-330)` it is zero. -/
def nearest (negative : Bool) (digits : Nat) (exponent : Int) : Option Float :=
  let size : Int := (Nat.toDigits 10 digits).length
  if digits = 0 then ofRatio negative 0 1
  else if size + exponent > 320 then none
  else if size + exponent < -340 then ofRatio negative 0 1
  else match exponent with
    | .ofNat n => ofRatio negative (digits * Nat.pow 10 n) 1
    | .negSucc n => ofRatio negative digits (Nat.pow 10 (n + 1))

end RuleEngine.Decimal
