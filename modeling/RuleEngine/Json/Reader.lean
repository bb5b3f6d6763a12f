import RuleEngine.Decimal.Scaled
import RuleEngine.Value

/-!
# RuleEngine.Json.Reader

Reading JSON text.  Blanks between tokens are skipped, nothing else is
lenient: no trailing commas, no leading zeros, no bare control characters and
no unpaired surrogate escapes in strings.  Lists and objects nest at most
`maxDepth` levels.  A repeated key keeps its first position and takes its last
value.

Every reader takes the characters that are left and gives what it read with
the characters that follow it.  `fuel` bounds the number of nested calls; twice
the length of the text is always enough, since every second call consumes a
character.
-/

namespace RuleEngine.Json

/-- The deepest nesting that is read. -/
def maxDepth : Nat := 127

/-- Blanks between tokens. -/
def isBlank (c : Char) : Bool := c = ' ' || c = '\n' || c = '\t' || c = '\r'

/-- Skips blanks. -/
def skipBlanks (cs : List Char) : List Char := cs.dropWhile isBlank

/-! ## Numbers -/

/-- The digits at the front and what follows them. -/
def readDigits (cs : List Char) : List Char × List Char := cs.span Char.isDigit

/-- The fraction after the whole part: a point and at least one digit, or
nothing. -/
def readFraction : List Char → Option (List Char × List Char)
  | '.' :: cs =>
    let (digits, rest) := readDigits cs
    if digits.isEmpty then none else some (digits, rest)
  | cs => some ([], cs)

/-- Reads the digits of an exponent with the given sign. -/
def readPower (negative : Bool) (cs : List Char) : Option (Int × List Char) :=
  let (digits, rest) := readDigits cs
  if digits.isEmpty then none
  else
    let power : Int := Nat.ofDigitChars 10 digits 0
    some (if negative then -power else power, rest)

/-- The exponent, if the number has one. -/
def readExponent : List Char → Option (Option Int × List Char)
  | c :: cs =>
    if c = 'e' ∨ c = 'E' then
      match cs with
      | '+' :: rest => (readPower false rest).map fun r => (some r.1, r.2)
      | '-' :: rest => (readPower true rest).map fun r => (some r.1, r.2)
      | _ => (readPower false cs).map fun r => (some r.1, r.2)
    else some (none, c :: cs)
  | [] => some (none, [])

/-- The whole part: a zero alone, or digits that start with another one. -/
def readWhole (cs : List Char) : Option (List Char × List Char) :=
  let (digits, rest) := readDigits cs
  match digits with
  | [] => none
  | ['0'] => some (digits, rest)
  | '0' :: _ => none
  | _ => some (digits, rest)

/-- The number a sign, a whole part, a fraction and an exponent stand for.
Without fraction and exponent it is an integer if it fits, except that minus
zero is a double.  A double is read by floating-point arithmetic; one that
overflows is no number. -/
def numberOf (negative : Bool) (whole fraction : List Char) (power : Option Int) :
    Option Number :=
  let n := Nat.ofDigitChars 10 whole 0
  let float (_ : Unit) : Option Number :=
    (Decimal.scaled negative whole fraction (power.getD 0)).bind Number.ofFloat?
  if fraction.isEmpty && power.isNone && !(negative && n = 0) then
    match Number.ofInt? (if negative then -n else n) with
    | some number => some number
    | none => float ()
  else float ()

/-- A number without its sign. -/
def readUnsigned (negative : Bool) (cs : List Char) : Option (Number × List Char) := do
  let (whole, cs) ← readWhole cs
  let (fraction, cs) ← readFraction cs
  let (power, cs) ← readExponent cs
  let number ← numberOf negative whole fraction power
  some (number, cs)

/-- A number. -/
def readNumber : List Char → Option (Number × List Char)
  | '-' :: cs => readUnsigned true cs
  | cs => readUnsigned false cs

/-! ## Strings -/

/-- The value of a hexadecimal digit of either case. -/
def hexValue? (c : Char) : Option Nat :=
  if '0' ≤ c ∧ c ≤ '9' then some (c.toNat - '0'.toNat)
  else if 'a' ≤ c ∧ c ≤ 'f' then some (c.toNat - 'a'.toNat + 10)
  else if 'A' ≤ c ∧ c ≤ 'F' then some (c.toNat - 'A'.toNat + 10)
  else none

/-- The code written by four hexadecimal digits. -/
def hexCode? (a b c d : Char) : Option Nat := do
  let a ← hexValue? a
  let b ← hexValue? b
  let c ← hexValue? c
  let d ← hexValue? d
  some (((a * 16 + b) * 16 + c) * 16 + d)

/-- The character with a code, unless it is half of a surrogate pair. -/
def charOfCode? (n : Nat) : Option Char :=
  if h : n.isValidChar then some (Char.ofNatAux n h) else none

/-- The character that two halves of a surrogate pair stand for. -/
def charOfPair? (high low : Nat) : Option Char :=
  if 0xD800 ≤ high ∧ high ≤ 0xDBFF ∧ 0xDC00 ≤ low ∧ low ≤ 0xDFFF then
    charOfCode? (0x10000 + (high - 0xD800) * 0x400 + (low - 0xDC00))
  else none

/-- The character a one-letter escape stands for. -/
def simpleEscape? (c : Char) : Option Char :=
  if c = '"' ∨ c = '\\' ∨ c = '/' then some c
  else if c = 'b' then some '\x08'
  else if c = 'f' then some '\x0c'
  else if c = 'n' then some '\n'
  else if c = 'r' then some '\r'
  else if c = 't' then some '\t'
  else none

/-- An escape after its backslash. -/
def readEscape : List Char → Option (Char × List Char)
  | 'u' :: a :: b :: c :: d :: cs => do
    let code ← hexCode? a b c d
    if 0xD800 ≤ code ∧ code ≤ 0xDFFF then
      match cs with
      | '\\' :: 'u' :: a :: b :: c :: d :: cs => do
        let low ← hexCode? a b c d
        let char ← charOfPair? code low
        some (char, cs)
      | _ => none
    else do
      let char ← charOfCode? code
      some (char, cs)
  | c :: cs => (simpleEscape? c).map fun char => (char, cs)
  | [] => none

/-- The characters of a string up to its closing quote, which is consumed. -/
def readChars : (fuel : Nat) → List Char → Option (List Char × List Char)
  | 0, _ => none
  | _, [] => none
  | fuel + 1, c :: cs =>
    if c = '"' then some ([], cs)
    else if c = '\\' then do
      let (char, cs) ← readEscape cs
      let (chars, cs) ← readChars fuel cs
      some (char :: chars, cs)
    else if c.toNat < 0x20 then none
    else do
      let (chars, cs) ← readChars fuel cs
      some (c :: chars, cs)

/-! ## Values -/

/-- What stands between brackets: nothing, or members separated by commas. -/
def closes (close : Char) (cs : List Char) : Option (List Char) :=
  match skipBlanks cs with
  | c :: rest => if c = close then some rest else none
  | [] => none

mutual
/-- A value after blanks, with lists and objects nested at most `depth`
levels. -/
def readValue : (fuel depth : Nat) → List Char → Option (Value × List Char)
  | 0, _, _ => none
  | fuel + 1, depth, cs =>
    match skipBlanks cs with
    | 'n' :: 'u' :: 'l' :: 'l' :: rest => some (.null, rest)
    | 't' :: 'r' :: 'u' :: 'e' :: rest => some (.bool true, rest)
    | 'f' :: 'a' :: 'l' :: 's' :: 'e' :: rest => some (.bool false, rest)
    | '"' :: rest => do
      let (chars, rest) ← readChars (rest.length + 1) rest
      some (.str (String.ofList chars), rest)
    | '[' :: rest =>
      if depth = 0 then none
      else match closes ']' rest with
        | some rest => some (.arr [], rest)
        | none => do
          let (items, rest) ← readItems fuel (depth - 1) rest
          some (.arr items, rest)
    | '{' :: rest =>
      if depth = 0 then none
      else match closes '}' rest with
        | some rest => some (.obj [], rest)
        | none => do
          let (entries, rest) ← readEntries fuel (depth - 1) rest
          some (.obj (Keyed.ofEntries entries), rest)
    | rest => (readNumber rest).map fun r => (.num r.1, r.2)

/-- One item or more, and the closing bracket. -/
def readItems : (fuel depth : Nat) → List Char → Option (List Value × List Char)
  | 0, _, _ => none
  | fuel + 1, depth, cs => do
    let (v, cs) ← readValue fuel depth cs
    match skipBlanks cs with
    | ']' :: rest => some ([v], rest)
    | ',' :: rest => do
      let (vs, rest) ← readItems fuel depth rest
      some (v :: vs, rest)
    | _ => none

/-- One entry or more, and the closing brace. -/
def readEntries : (fuel depth : Nat) → List Char → Option (List (String × Value) × List Char)
  | 0, _, _ => none
  | fuel + 1, depth, cs =>
    match skipBlanks cs with
    | '"' :: cs => do
      let (key, cs) ← readChars (cs.length + 1) cs
      let cs ← closes ':' cs
      let (v, cs) ← readValue fuel depth cs
      match skipBlanks cs with
      | '}' :: rest => some ([(String.ofList key, v)], rest)
      | ',' :: rest => do
        let (es, rest) ← readEntries fuel depth rest
        some ((String.ofList key, v) :: es, rest)
      | _ => none
    | _ => none
end

/-- Reads a whole text: one value with blanks around it. -/
def read? (text : String) : Option Value :=
  let cs := text.toList
  match readValue (2 * cs.length + 2) maxDepth cs with
  | some (v, rest) => if (skipBlanks rest).isEmpty then some v else none
  | none => none

end RuleEngine.Json
