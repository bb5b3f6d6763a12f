import RuleEngine.Json.Reader

/-!
# RuleEngine.Toml.Text

The texts of a TOML document: basic and literal strings, on one line or on
several, and keys.
-/

namespace RuleEngine.Toml

/-- Blanks inside a line. -/
def isBlank (c : Char) : Bool := c = ' ' || c = '\t'

/-- Skips blanks. -/
def skipBlanks (cs : List Char) : List Char := cs.dropWhile isBlank

/-- Characters that may stand in comments and literal strings: all but the
control characters, of which only the tab may. -/
def isPlain (c : Char) : Bool := c = '\t' || (0x20 ≤ c.toNat && c.toNat ≠ 0x7f)

/-- The text after a line break, if one comes next. -/
def newline? : List Char → Option (List Char)
  | '\n' :: cs => some cs
  | '\r' :: '\n' :: cs => some cs
  | _ => none

/-! ## Strings -/

/-- The character of a numeric escape of a given width. -/
def codeEscape (width : Nat) (cs : List Char) : Option (Char × List Char) := do
  let digits := cs.take width
  if digits.length < width then none
  let code ← digits.foldlM (fun n c => (Json.hexValue? c).map fun d => n * 16 + d) 0
  let c ← Json.charOfCode? code
  some (c, cs.drop width)

/-- An escape after its backslash. -/
def readEscape : List Char → Option (Char × List Char)
  | 'u' :: cs => codeEscape 4 cs
  | 'U' :: cs => codeEscape 8 cs
  | '/' :: _ => none
  | c :: cs => (Json.simpleEscape? c).map fun x => (x, cs)
  | [] => none

/-- A basic string on one line, after its opening quote. -/
def readBasic : (fuel : Nat) → List Char → Option (List Char × List Char)
  | 0, _ => none
  | _, [] => none
  | fuel + 1, c :: cs =>
    if c = '"' then some ([], cs)
    else if c = '\\' then do
      let (x, cs) ← readEscape cs
      let (xs, cs) ← readBasic fuel cs
      some (x :: xs, cs)
    else if !isPlain c then none
    else do
      let (xs, cs) ← readBasic fuel cs
      some (c :: xs, cs)

/-- A literal string on one line, after its opening quote. -/
def readLiteral (cs : List Char) : Option (List Char × List Char) :=
  let (text, rest) := cs.span fun c => isPlain c && c ≠ '\''
  match rest with
  | '\'' :: rest => some (text, rest)
  | _ => none

/-- The end of a string on several lines: three quotes, before which two more
belong to the text. -/
def closing? (quote : Char) (cs : List Char) : Option (List Char × List Char) :=
  let count := (cs.takeWhile (· = quote)).length
  if count < 3 then none
  else
    let own := min (count - 3) 2
    some (List.replicate own quote, cs.drop (own + 3))

/-- Skips blanks and line breaks. -/
def skipWhite : List Char → List Char
  | [] => []
  | '\r' :: '\n' :: cs => skipWhite cs
  | c :: cs => if isBlank c || c = '\n' then skipWhite cs else c :: cs

/-- The text after an escaped line break: blanks and line breaks up to the next
visible character are skipped. -/
def skipLines (cs : List Char) : Option (List Char) :=
  (newline? (skipBlanks cs)).map skipWhite

/-- A basic string on several lines, after its opening quotes. -/
def readBasicLines : (fuel : Nat) → List Char → Option (List Char × List Char)
  | 0, _ => none
  | fuel + 1, cs =>
    match closing? '"' cs, newline? cs with
    | some (text, rest), _ => some (text, rest)
    | none, some rest => do
      let (xs, rest) ← readBasicLines fuel rest
      some ('\n' :: xs, rest)
    | none, none =>
      match cs with
      | [] => none
      | '\\' :: rest =>
        match skipLines rest with
        | some rest => readBasicLines fuel rest
        | none => do
          let (x, rest) ← readEscape rest
          let (xs, rest) ← readBasicLines fuel rest
          some (x :: xs, rest)
      | c :: rest =>
        if !isPlain c then none
        else do
          let (xs, rest) ← readBasicLines fuel rest
          some (c :: xs, rest)

/-- A literal string on several lines, after its opening quotes. -/
def readLiteralLines : (fuel : Nat) → List Char → Option (List Char × List Char)
  | 0, _ => none
  | fuel + 1, cs =>
    match closing? '\'' cs, newline? cs with
    | some (text, rest), _ => some (text, rest)
    | none, some rest => do
      let (xs, rest) ← readLiteralLines fuel rest
      some ('\n' :: xs, rest)
    | none, none =>
      match cs with
      | [] => none
      | c :: rest =>
        if !isPlain c then none
        else do
          let (xs, rest) ← readLiteralLines fuel rest
          some (c :: xs, rest)

/-- The text after a line break that directly follows the opening quotes. -/
def dropFirstBreak (cs : List Char) : List Char := (newline? cs).getD cs

/-- A string of any of the four kinds, at its opening quote. -/
def readString (cs : List Char) : Option (String × List Char) := do
  let (text, rest) ← match cs with
    | '"' :: '"' :: '"' :: rest => readBasicLines (rest.length + 1) (dropFirstBreak rest)
    | '\'' :: '\'' :: '\'' :: rest => readLiteralLines (rest.length + 1) (dropFirstBreak rest)
    | '"' :: rest => readBasic (rest.length + 1) rest
    | '\'' :: rest => readLiteral rest
    | _ => none
  some (String.ofList text, rest)

/-! ## Keys -/

/-- Characters of a bare key. -/
def isBare (c : Char) : Bool := c.isAlphanum || c = '_' || c = '-'

/-- One part of a key, bare or quoted. -/
def readKeyPart (cs : List Char) : Option (String × List Char) :=
  match cs with
  | '"' :: rest => (readBasic (rest.length + 1) rest).map fun r => (String.ofList r.1, r.2)
  | '\'' :: rest => (readLiteral rest).map fun r => (String.ofList r.1, r.2)
  | _ =>
    let (name, rest) := cs.span isBare
    if name.isEmpty then none else some (String.ofList name, rest)

/-- A key: parts with points between them, and blanks around each. -/
def readKey : (fuel : Nat) → List Char → Option (List String × List Char)
  | 0, _ => none
  | fuel + 1, cs => do
    let (part, rest) ← readKeyPart (skipBlanks cs)
    match skipBlanks rest with
    | '.' :: rest => do
      let (parts, rest) ← readKey fuel rest
      some (part :: parts, rest)
    | rest => some ([part], rest)

end RuleEngine.Toml
