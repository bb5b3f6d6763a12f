import RuleEngine.Toml.Text

/-!
# RuleEngine.Toml.Number

The forms of numbers, dates and times in a TOML document.  Only whether a text
has one of these forms, and where it ends, is told.
-/

namespace RuleEngine.Toml

/-! ## Numbers -/

/-- Digits of a class with single underscores between them: the digits, and
what follows. -/
def readGroups (p : Char → Bool) : (fuel : Nat) → List Char → Option (List Char × List Char)
  | 0, _ => none
  | fuel + 1, cs =>
    let (digits, rest) := cs.span p
    if digits.isEmpty then none
    else match rest with
      | '_' :: rest => (readGroups p fuel rest).map fun r => (digits ++ r.1, r.2)
      | _ => some (digits, rest)

/-- Digits with underscores between them. -/
def readDigits (p : Char → Bool) (cs : List Char) : Option (List Char × List Char) :=
  readGroups p (cs.length + 1) cs

/-- Whether a digit is below a base. -/
def isDigitOf (base : Nat) (c : Char) : Bool := (Json.hexValue? c).any (· < base)

/-- The value of digits in a base. -/
def valueOf (base : Nat) (digits : List Char) : Nat :=
  digits.foldl (fun n c => n * base + (Json.hexValue? c).getD 0) 0

/-- An integer in another base, after its first two characters. -/
def readBased (base : Nat) (cs : List Char) : Option (List Char) := do
  let (digits, rest) ← readDigits (isDigitOf base) cs
  if valueOf base digits < 0x8000000000000000 then some rest else none

/-- A text after its sign. -/
def dropSign : List Char → Bool × List Char
  | '-' :: cs => (true, cs)
  | '+' :: cs => (false, cs)
  | cs => (false, cs)

/-- The whole part of a decimal number, without leading zeros. -/
def readWhole (cs : List Char) : Option (List Char × List Char) := do
  let (digits, rest) ← readDigits Char.isDigit cs
  match digits with
  | '0' :: _ :: _ => none
  | _ => some (digits, rest)

/-- The fraction of a number, if it has one. -/
def readFraction : List Char → Option (List Char × List Char)
  | '.' :: cs => readDigits Char.isDigit cs
  | cs => some ([], cs)

/-- The exponent of a number, if it has one. -/
def readPower : List Char → Option (Option Int × List Char)
  | c :: cs =>
    if c = 'e' ∨ c = 'E' then do
      let (negative, cs) := dropSign cs
      let (digits, rest) ← readDigits Char.isDigit cs
      let n : Int := Nat.ofDigitChars 10 digits 0
      some (some (if negative then -n else n), rest)
    else some (none, c :: cs)
  | [] => some (none, [])

/-- A decimal number: an integer of 64 bits, or a float, which must not
overflow. -/
def readDecimal (cs : List Char) : Option (List Char) := do
  let (negative, cs) := dropSign cs
  let (whole, cs) ← readWhole cs
  let (fraction, cs) ← readFraction cs
  let (power, cs) ← readPower cs
  if fraction.isEmpty && power.isNone then
    let n := Nat.ofDigitChars 10 whole 0
    if n < 0x8000000000000000 || (negative && n = 0x8000000000000000) then some cs else none
  else
    let digits := Nat.ofDigitChars 10 (whole ++ fraction) 0
    let _ ← Decimal.nearest negative digits (power.getD 0 - fraction.length)
    some cs

/-- A number of any form. -/
def readNumber (cs : List Char) : Option (List Char) :=
  match cs with
  | '0' :: 'x' :: rest => readBased 16 rest
  | '0' :: 'o' :: rest => readBased 8 rest
  | '0' :: 'b' :: rest => readBased 2 rest
  | _ =>
    match (dropSign cs).2 with
    | 'i' :: 'n' :: 'f' :: rest => some rest
    | 'n' :: 'a' :: 'n' :: rest => some rest
    | _ => readDecimal cs

/-! ## Dates and times -/

/-- A number of exactly `count` digits between two bounds. -/
def readField (count low high : Nat) (cs : List Char) : Option (Nat × List Char) :=
  let digits := cs.take count
  let n := Nat.ofDigitChars 10 digits 0
  if digits.length = count ∧ digits.all Char.isDigit ∧ low ≤ n ∧ n ≤ high then
    some (n, cs.drop count)
  else none

/-- The given character. -/
def expect (x : Char) : List Char → Option (List Char)
  | c :: cs => if c = x then some cs else none
  | [] => none

/-- The number of days of a month. -/
def daysIn (year month : Nat) : Nat :=
  if month = 2 then
    if year % 4 = 0 ∧ (year % 100 ≠ 0 ∨ year % 400 = 0) then 29 else 28
  else if month = 4 ∨ month = 6 ∨ month = 9 ∨ month = 11 then 30
  else 31

/-- A date. -/
def readDate (cs : List Char) : Option (List Char) := do
  let (year, cs) ← readField 4 0 9999 cs
  let (month, cs) ← readField 2 1 12 (← expect '-' cs)
  let (_, cs) ← readField 2 1 (daysIn year month) (← expect '-' cs)
  some cs

/-- A time of day. -/
def readTime (cs : List Char) : Option (List Char) := do
  let (_, cs) ← readField 2 0 23 cs
  let (_, cs) ← readField 2 0 59 (← expect ':' cs)
  let (_, cs) ← readField 2 0 60 (← expect ':' cs)
  match cs with
  | '.' :: rest =>
    let (digits, rest) := rest.span Char.isDigit
    if digits.isEmpty then none else some rest
  | _ => some cs

/-- The offset of a time, if it has one. -/
def readOffset (cs : List Char) : Option (List Char) :=
  match cs with
  | c :: rest =>
    if c = 'Z' ∨ c = 'z' then some rest
    else if c = '+' ∨ c = '-' then do
      let (_, cs) ← readField 2 0 23 rest
      let (_, cs) ← readField 2 0 59 (← expect ':' cs)
      some cs
    else some cs
  | [] => some []

/-- The time after a date, if there is one. -/
def readTimeOfDate (cs : List Char) : Option (List Char) :=
  match cs with
  | c :: rest =>
    if c = 'T' ∨ c = 't' ∨ (c = ' ' ∧ rest.head?.any Char.isDigit) then do
      readOffset (← readTime rest)
    else some cs
  | [] => some []

/-- Whether a date comes next: four digits and a dash. -/
def looksLikeDate (cs : List Char) : Bool :=
  (cs.take 4).length = 4 && (cs.take 4).all Char.isDigit && cs[4]? = some '-'

/-- Whether a time of day comes next: two digits and a colon. -/
def looksLikeTime (cs : List Char) : Bool :=
  (cs.take 2).length = 2 && (cs.take 2).all Char.isDigit && cs[2]? = some ':'

/-- A number, a date or a time: what follows it. -/
def readScalar (cs : List Char) : Option (List Char) :=
  if looksLikeDate cs then do readTimeOfDate (← readDate cs)
  else if looksLikeTime cs then readTime cs
  else readNumber cs

end RuleEngine.Toml
