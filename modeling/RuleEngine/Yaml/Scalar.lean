import RuleEngine.Json.Reader

/-!
# RuleEngine.Yaml.Scalar

What a plain scalar stands for: null, a truth value, an integer, a float or its
own text.

1. Nothing, `null` and `~` are null.
2. Integers have a sign and decimal digits without leading zeros, or digits
   after `0x`, `0o` or `0b`; they fit 128 bits.
3. Floats are decimals with a point or an exponent, `.inf` or `.nan`.  A
   decimal that overflows is no float.
4. Digits with a leading zero are text.
-/

namespace RuleEngine.Yaml

/-- The content of a scalar. -/
inductive Scalar where
  | null
  | bool (b : Bool)
  | int (n : Int)
  /-- A double, which may be infinite or no number. -/
  | float (x : Float)
  | str (s : String)
deriving DecidableEq

namespace Scalar

/-- The names of null. -/
def isNullName (s : String) : Bool := s = "null" || s = "Null" || s = "NULL" || s = "~"

/-- The truth value of a name. -/
def boolOfName? (s : String) : Option Bool :=
  if s = "true" ∨ s = "True" ∨ s = "TRUE" then some true
  else if s = "false" ∨ s = "False" ∨ s = "FALSE" then some false
  else none

/-! ## Integers -/

/-- The number that hexadecimal digits below the base write. -/
def digitsIn (base : Nat) (cs : List Char) : Option Nat :=
  if cs.isEmpty then none
  else cs.foldlM (fun n c => do
    let d ← Json.hexValue? c
    if d < base then some (n * base + d) else none) 0

/-- Whether digits start with a zero that is not the only one. -/
def hasLeadingZero : List Char → Bool
  | '0' :: c :: cs => (c :: cs).all Char.isDigit
  | _ => false

/-- The text without a sign at its front. -/
def dropSign : List Char → List Char
  | '+' :: cs => cs
  | '-' :: cs => cs
  | cs => cs

/-- Whether a text is digits with a leading zero, with or without a sign. -/
def isPadded (cs : List Char) : Bool := hasLeadingZero (dropSign cs)

/-- The magnitude of an integer. -/
def magnitude? (cs : List Char) : Option Nat :=
  match cs with
  | '0' :: 'x' :: digits => digitsIn 16 digits
  | '0' :: 'o' :: digits => digitsIn 8 digits
  | '0' :: 'b' :: digits => digitsIn 2 digits
  | digits => if hasLeadingZero digits then none else digitsIn 10 digits

/-- The integer a text stands for. -/
def int? (cs : List Char) : Option Int :=
  match cs with
  | '-' :: rest => do
    let n ← magnitude? rest
    if n ≤ 1 <<< 127 then some (-(n : Int)) else none
  | _ => do
    let n ← magnitude? (match cs with
      | '+' :: rest => rest
      | _ => cs)
    if n < 1 <<< 128 then some (n : Int) else none

/-! ## Floats -/

/-- The double of a decimal: digits with a point anywhere or none, and an
exponent or none. -/
def decimal? (negative : Bool) (cs : List Char) : Option Float := do
  let (whole, rest) := Json.readDigits cs
  let (fraction, rest) := match rest with
    | '.' :: rest => Json.readDigits rest
    | _ => ([], rest)
  if whole.isEmpty && fraction.isEmpty then none
  let (power, rest) ← Json.readExponent rest
  if !rest.isEmpty then none
  Decimal.nearest negative (Nat.ofDigitChars 10 (whole ++ fraction) 0)
    (power.getD 0 - fraction.length)

/-- Infinity. -/
def infinity : Float := Float.ofBits 0x7ff0000000000000

/-- The double a text stands for. -/
def float? (cs : List Char) : Option Float :=
  let infinite (s : String) : Bool := s = ".inf" || s = ".Inf" || s = ".INF"
  match cs with
  | '+' :: rest =>
    if infinite (String.ofList rest) then some infinity else decimal? false rest
  | '-' :: rest =>
    if infinite (String.ofList rest) then some (-infinity) else decimal? true rest
  | _ =>
    let s := String.ofList cs
    if infinite s then some infinity
    else if s = ".nan" ∨ s = ".NaN" ∨ s = ".NAN" then some (Float.ofBits 0x7ff8000000000000)
    else decimal? false cs

/-! ## Scalars -/

/-- What a plain scalar stands for. -/
def ofPlain (s : String) : Scalar :=
  if s.isEmpty || isNullName s then .null
  else match boolOfName? s with
    | some b => .bool b
    | none =>
      match int? s.toList with
      | some n => .int n
      | none =>
        if isPadded s.toList then .str s
        else match float? s.toList with
          | some x => .float x
          | none => .str s

/-- The number of a tagged integer. -/
def ofTaggedInt? (s : String) : Option Scalar := (int? s.toList).map .int

/-- What a scalar with one of the tags of the core schema stands for; other
tags give text. -/
def ofTagged? (tag s : String) : Option Scalar :=
  if tag = "tag:yaml.org,2002:bool" then (boolOfName? s).map .bool
  else if tag = "tag:yaml.org,2002:int" then ofTaggedInt? s
  else if tag = "tag:yaml.org,2002:float" then (float? s.toList).map .float
  else if tag = "tag:yaml.org,2002:null" then if isNullName s then some .null else none
  else some (.str s)

end Scalar

end RuleEngine.Yaml
