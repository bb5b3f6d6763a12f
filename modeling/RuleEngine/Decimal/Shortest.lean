/-!
# RuleEngine.Decimal.Shortest

The shortest decimal that reads back as a given double.

A positive double is `m · 2 ^ q`; the reals that round to it form an
interval around it, closed when `m` is even.  For one digit, two digits and
so on, the two neighbours of the value on the grid of decimals with that
many digits are tested; the first grid with a neighbour inside the interval
gives the answer, the nearer one when both are inside, and the even one when
both are equally near.  Everything is computed in naturals, and seventeen
digits always suffice.
-/

namespace RuleEngine.Decimal

/-- A positive decimal `digits · 10 ^ exponent`. -/
structure Digits where
  digits : Nat
  exponent : Int
deriving DecidableEq

/-- Significand and exponent of the magnitude of a finite double. -/
def significand (x : Float) : Nat × Int :=
  let bits := x.toBits.toNat % 1 <<< 63
  let field := bits >>> 52
  let fraction := bits % 1 <<< 52
  if field = 0 then (fraction, -1074) else (fraction + 1 <<< 52, Int.ofNat field - 1075)

/-- The sign bit. -/
def isNegative (x : Float) : Bool := 1 <<< 63 ≤ x.toBits.toNat

/-- The interval of reals that round to `m · 2 ^ q`, in units of
`2 ^ (q - 2)`.  Below a power of two the neighbour is at half the distance. -/
structure Window where
  low : Nat
  value : Nat
  high : Nat
  closed : Bool

/-- The window of a significand. -/
def Window.of (m : Nat) (q : Int) : Window where
  low := 4 * m - (if m = 1 <<< 52 ∧ -1074 < q then 1 else 2)
  value := 4 * m
  high := 4 * m + 2
  closed := m % 2 = 0

/-- The grid of the multiples of `10 ^ s`, seen from units of `2 ^ u`: the
multiple `c` lies at `c * step`, a window bound `w` at `w * unit`. -/
structure Grid where
  step : Nat
  unit : Nat

/-- Powers of two and ten distributed so that both sides are naturals. -/
def Grid.of (s u : Int) : Grid where
  step := Nat.pow 10 s.toNat <<< (-u).toNat
  unit := Nat.pow 10 (-s).toNat <<< u.toNat

/-- Whether the multiple `c` of the grid lies inside the window. -/
def Grid.inside (g : Grid) (w : Window) (c : Nat) : Bool :=
  let place := c * g.step
  if w.closed then w.low * g.unit ≤ place && place ≤ w.high * g.unit
  else w.low * g.unit < place && place < w.high * g.unit

/-- The neighbour of the value on the grid that reads back, if one does. -/
def Grid.pick (g : Grid) (w : Window) : Option Nat :=
  let target := w.value * g.unit
  let below := target / g.step
  let above := below + 1
  match g.inside w below && below != 0, g.inside w above with
  | true, false => some below
  | false, true => some above
  | false, false => none
  | true, true =>
    let gap := target - below * g.step
    let gapAbove := above * g.step - target
    if gap < gapAbove then some below
    else if gapAbove < gap then some above
    else if below % 2 = 0 then some below else some above

/-- The greatest `e` with `10 ^ e ≤ a / b`, for positive `a` and `b`. -/
def magnitude (a b : Nat) : Int :=
  if b ≤ a then (Nat.toDigits 10 (a / b)).length - 1
  else
    let e : Int := -(Nat.toDigits 10 (b / a)).length
    -- `10 ^ e ≤ a / b` may still hold one step up, when `b / a` is a power of ten
    if b ≤ a * Nat.pow 10 (-e - 1).toNat then e + 1 else e

/-- Removes the zeros at the end of the digits; `fuel` bounds their number. -/
def Digits.strip : Nat → Digits → Digits
  | 0, d => d
  | fuel + 1, d =>
    if d.digits % 10 = 0 ∧ d.digits ≠ 0 then Digits.strip fuel ⟨d.digits / 10, d.exponent + 1⟩ else d

/-- The shortest decimal in the window, from `count` digits on; `fuel` more
grids are tried. -/
def search (w : Window) (u e : Int) : (fuel count : Nat) → Option Digits
  | 0, _ => none
  | fuel + 1, count =>
    let s := e - count + 1
    match (Grid.of s u).pick w with
    | some c => some (Digits.strip 20 ⟨c, s⟩)
    | none => search w u e fuel (count + 1)

/-- The shortest decimal that reads back as the magnitude of `x`; of several
the nearest.  Zero is `0 · 10 ^ 0`. -/
def shortest (x : Float) : Digits :=
  let (m, q) := significand x
  if m = 0 then ⟨0, 0⟩
  else
    let e := magnitude (m <<< q.toNat) (1 <<< (-q).toNat)
    (search (Window.of m q) (q - 2) e 18 1).getD ⟨m, 0⟩

end RuleEngine.Decimal
