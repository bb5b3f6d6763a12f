import RuleEngine.Setting
import RuleEngine.Text.Blank

/-!
# RuleEngine.Setting.Variable

Settings from environment variables.  The name of a variable starts with a
prefix, in any case; what follows names the setting, with points between the
tables it stands in.  The value is a truth value, a number, a quoted text, a
list in brackets or a table in braces; what is none of these is a text as it
is.
-/

namespace RuleEngine.Setting

/-! ## Values -/

/-- Blanks around values. -/
def isSpace (c : Char) : Bool := c = ' ' || c = '\t' || c = '\n' || c = '\r' || c = '\x0c'

/-- Characters that end an unquoted value. -/
def isSeparator (c : Char) : Bool :=
  c = ',' || c = '[' || c = ']' || c = '\x7b' || c = '\x7d'

/-- Whether an unquoted text is a number: a decimal with a point, or an integer
of 64 bits. -/
def isNumber (cs : List Char) : Bool :=
  let (negative, digits) := match cs with
    | '-' :: rest => (true, rest)
    | '+' :: rest => (false, rest)
    | _ => (false, cs)
  let n := Nat.ofDigitChars 10 digits 0
  let integer := !digits.isEmpty && digits.all Char.isDigit &&
    (if negative then n ≤ 0x8000000000000000 else n < 0x10000000000000000)
  integer || (digits.contains '.' && isDecimal digits)
where
  /-- Digits with a point, and an exponent or none. -/
  isDecimal (cs : List Char) : Bool :=
    let whole := cs.takeWhile Char.isDigit
    let rest := cs.dropWhile Char.isDigit
    let fraction := rest.tail.takeWhile Char.isDigit
    let rest := if rest.head? = some '.' then rest.tail.dropWhile Char.isDigit else rest
    !(whole.isEmpty && fraction.isEmpty) &&
      (Json.readExponent rest).any fun r => r.2.isEmpty

/-- The character that a numeric escape of a given width stands for. -/
def codeEscape (width : Nat) (cs : List Char) : Option (Char × List Char) := do
  let digits := cs.take width
  if digits.length < width then none
  let code ← Yaml.Quoted.hexNumber? digits
  let c ← Json.charOfCode? code
  some (c, cs.drop width)

/-- An escape in quotes after its backslash. -/
def readEscape : List Char → Option (Char × List Char)
  | 'u' :: cs => codeEscape 4 cs
  | 'U' :: cs => codeEscape 8 cs
  | '/' :: _ => none
  | c :: cs => (Json.simpleEscape? c).map fun x => (x, cs)
  | [] => none

/-- The characters of a quoted text up to its closing quote, which is
consumed. -/
def readQuoted : (fuel : Nat) → List Char → Option (List Char × List Char)
  | 0, _ => none
  | _, [] => none
  | fuel + 1, c :: cs =>
    if c = '"' then some ([], cs)
    else if c = '\\' then do
      let (x, cs) ← readEscape cs
      let (xs, cs) ← readQuoted fuel cs
      some (x :: xs, cs)
    else if c ≠ '\t' ∧ (c.toNat < 0x20 ∨ c.toNat = 0x7f) then none
    else do
      let (xs, cs) ← readQuoted fuel cs
      some (c :: xs, cs)

/-- The name of a table entry, quoted or not, with the equals sign after it. -/
def readName (cs : List Char) : Option (String × List Char) := do
  let cs := cs.dropWhile isSpace
  let (name, cs) ← match cs with
    | '"' :: cs => readQuoted (cs.length + 1) cs
    | _ => some (cs.span fun c => !isSeparator c && c ≠ '=')
  match cs.dropWhile isSpace with
  | '=' :: rest => if name.isEmpty then none else some (String.ofList (Text.trimBy isSpace name), rest)
  | _ => none

/-- A value that is not quoted and stands in no brackets. -/
def readWord (cs : List Char) : Setting × List Char :=
  let (word, rest) := cs.span fun c => !isSeparator c
  let word := Text.trimBy Text.isBlank word
  (if isNumber word then .other else .text (String.ofList word), rest)

mutual
/-- A value with blanks around it. -/
def readValue (fuel : Nat) (cs : List Char) : Option (Setting × List Char) :=
  match fuel with
  | 0 => none
  | fuel + 1 =>
    let result : Option (Setting × List Char) := match cs.dropWhile isSpace with
      | 't' :: 'r' :: 'u' :: 'e' :: rest => some (.bool true, rest)
      | 'f' :: 'a' :: 'l' :: 's' :: 'e' :: rest => some (.bool false, rest)
      | '\x7b' :: rest => (readEntries fuel rest).map fun r => (.table (Keyed.ofEntries r.1), r.2)
      | '[' :: rest => (readItems fuel rest).map fun rest => (.other, rest)
      | '"' :: rest => (readQuoted (rest.length + 1) rest).map fun r =>
        (.text (String.ofList r.1), r.2)
      | '\'' :: c :: '\'' :: rest => some (.text (String.ofList [c]), rest)
      | '\'' :: _ => none
      | rest => some (readWord rest)
    result.map fun r => (r.1, r.2.dropWhile isSpace)

/-- The items of a list after its bracket; what they are does not matter. -/
def readItems (fuel : Nat) (cs : List Char) : Option (List Char) :=
  match fuel with
  | 0 => none
  | fuel + 1 =>
    if cs.head? = some ']' then some cs.tail
    else do
      let (_, cs) ← readValue fuel cs
      match cs with
      | ',' :: rest => readItems fuel rest
      | ']' :: rest => some rest
      | _ => none

/-- The entries of a table after its brace. -/
def readEntries (fuel : Nat) (cs : List Char) :
    Option (List (String × Setting) × List Char) :=
  match fuel with
  | 0 => none
  | fuel + 1 =>
    if cs.head? = some '\x7d' then some ([], cs.tail)
    else do
      let (name, cs) ← readName cs
      let (setting, cs) ← readValue fuel cs
      match cs with
      | ',' :: rest => do
        let (entries, rest) ← readEntries fuel rest
        some ((name, setting) :: entries, rest)
      | '\x7d' :: rest => some ([(name, setting)], rest)
      | _ => none
end

/-- The setting that the value of a variable stands for. -/
def ofVariable (value : String) : Setting :=
  let cs := value.toList
  match readValue (2 * cs.length + 2) cs with
  | some (setting, []) => setting
  | _ => .text value

/-! ## Names -/

/-- The parts of a name between points. -/
def splitName : List Char → List (List Char)
  | [] => [[]]
  | c :: cs =>
    if c = '.' then [] :: splitName cs
    else match splitName cs with
      | part :: parts => (c :: part) :: parts
      | [] => [[c]]

/-- The setting put into the tables of a name; an empty part ends the name. -/
def nest (setting : Setting) : List (List Char) → Setting
  | [] => setting
  | part :: parts =>
    if part.isEmpty then setting else .table [(String.ofList part, nest setting parts)]

/-- What follows a prefix, which may be written in any case, in lowercase. -/
def afterLead (lead name : List Char) : Option (List Char) :=
  let front := (name.take lead.length).map Char.toLower
  if front = lead.map Char.toLower then some ((name.drop lead.length).map Char.toLower)
  else none

/-- The settings of a variable, none when its name does not start with the
prefix or ends there. -/
def ofNamed (lead : String) (name value : String) : Settings :=
  match afterLead lead.toList name.toList with
  | none => []
  | some rest =>
    match nest (ofVariable value) (splitName rest) with
    | .table entries => if rest.isEmpty then [] else entries
    | _ => []

/-- The settings of all variables; later ones override earlier ones. -/
def ofVariables (lead : String) (environment : List (String × String)) : Settings :=
  environment.foldl (fun all v => overrideAll all (ofNamed lead v.1 v.2)) []

end RuleEngine.Setting
