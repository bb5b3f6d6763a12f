import RuleEngine.Decimal.Shortest

/-!
# RuleEngine.Decimal.Layout

How a floating-point number is laid out once its digits are chosen:
positional notation while the leading digit stands at `10 ^ e` with `e`
between two bounds, always with a digit after the point; scientific notation
otherwise.
-/

namespace RuleEngine.Decimal

/-- The choices a text format makes for floating-point numbers. -/
structure Layout where
  /-- Least exponent of the leading digit that is written positionally. -/
  least : Int
  /-- Greatest exponent of the leading digit that is written positionally. -/
  greatest : Int
  /-- Sign written before a positive exponent. -/
  plus : List Char

/-- Layout of numbers in JSON text: `0.00001`, `1e-6`, `1000000000000000.0`,
`1e+16`. -/
def Layout.json : Layout := ⟨-5, 15, ['+']⟩

/-- Layout of numbers in YAML text: as in JSON, but `1e16`. -/
def Layout.yaml : Layout := ⟨-5, 15, []⟩

/-- The digits with a point after the first `n` of them; zeros fill up both
sides, and one digit follows the point at least. -/
def placePoint (digits : List Char) (n : Nat) : List Char :=
  let whole := digits.take n ++ List.replicate (n - digits.length) '0'
  let rest := digits.drop n
  whole ++ '.' :: (if rest.isEmpty then ['0'] else rest)

/-- Text of `digits · 10 ^ exponent`. -/
def Layout.magnitude (layout : Layout) (d : Digits) : List Char :=
  let digits := Nat.toDigits 10 d.digits
  let e : Int := d.exponent + digits.length - 1
  if d.digits = 0 then ['0', '.', '0']
  else if e < layout.least ∨ layout.greatest < e then
    let mantissa := match digits with
      | first :: second :: rest => first :: '.' :: second :: rest
      | _ => digits
    let power := Nat.toDigits 10 e.natAbs
    mantissa ++ 'e' :: (if e < 0 then '-' :: power else layout.plus ++ power)
  else if e < 0 then '0' :: '.' :: (List.replicate (-e - 1).toNat '0' ++ digits)
  else placePoint digits (e.toNat + 1)

/-- Text of a finite double: its sign, also of zero, and its shortest
digits. -/
def Layout.write (layout : Layout) (x : Float) : List Char :=
  let text := layout.magnitude (shortest x)
  if isNegative x then '-' :: text else text

end RuleEngine.Decimal
