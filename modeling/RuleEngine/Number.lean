import RuleEngine.Decimal.Layout
import RuleEngine.Decimal.Nearest

/-!
# RuleEngine.Number

The numbers of a document: integers that fit a signed or an unsigned 64-bit
word, and finite doubles.  An integer and a double of the same value are
different numbers.
-/

namespace RuleEngine

/-- A number of a document. -/
inductive Number where
  /-- An integer between the least signed and the greatest unsigned 64-bit
  word. -/
  | int (n : Int) (inRange : -0x8000000000000000 ≤ n ∧ n < 0x10000000000000000)
  /-- A finite double; zero has two signs. -/
  | float (x : Float) (finite : x.isFinite = true)
deriving DecidableEq

namespace Number

/-- The integer as a number, when it is in range. -/
def ofInt? (n : Int) : Option Number :=
  if h : -0x8000000000000000 ≤ n ∧ n < 0x10000000000000000 then some (.int n h) else none

/-- The double as a number, when it is finite. -/
def ofFloat? (x : Float) : Option Number :=
  if h : x.isFinite = true then some (.float x h) else none

@[simp] theorem ofInt?_eq_some {n : Int} (h : -0x8000000000000000 ≤ n ∧ n < 0x10000000000000000) :
    ofInt? n = some (.int n h) := by simp only [ofInt?, h, and_self, ↓reduceDIte]

@[simp] theorem ofFloat?_eq_some {x : Float} (h : x.isFinite = true) :
    ofFloat? x = some (.float x h) := by simp only [ofFloat?, h, ↓reduceDIte]

/-- Zero, as an integer. -/
def zero : Number := .int 0 (by decide)

instance : Inhabited Number := ⟨zero⟩

/-- The double nearest to the number. -/
def toFloat : Number → Float
  | .int n _ => (Decimal.ofRatio (n < 0) n.natAbs 1).getD 0
  | .float x _ => x

/-- Digits of an integer, with a minus sign where it is negative. -/
def integerText (n : Int) : List Char :=
  if n < 0 then '-' :: Nat.toDigits 10 n.natAbs else Nat.toDigits 10 n.natAbs

/-- Text of the number, doubles as the layout says. -/
def text (layout : Decimal.Layout) : Number → List Char
  | .int n _ => integerText n
  | .float x _ => layout.write x

end Number

end RuleEngine
