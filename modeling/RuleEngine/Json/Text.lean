import RuleEngine.Value

/-!
# RuleEngine.Json.Text

The compact JSON text of a value: no blanks, entries in their order, and only
the escapes that JSON requires.
-/

namespace RuleEngine.Json

/-! ## Strings -/

/-- The lowercase hexadecimal digit of a number below sixteen. -/
def hexDigit (n : Nat) : Char := Nat.digitChar n

/-- One character inside a quoted string.  Quote and backslash are escaped,
and so are the characters below U+0020: five of them by a letter, the rest by
their code. -/
def escape (c : Char) : List Char :=
  if c = '"' then ['\\', '"']
  else if c = '\\' then ['\\', '\\']
  else if c = '\n' then ['\\', 'n']
  else if c = '\t' then ['\\', 't']
  else if c = '\r' then ['\\', 'r']
  else if c = '\x08' then ['\\', 'b']
  else if c = '\x0c' then ['\\', 'f']
  else if c.toNat < 0x20 then
    ['\\', 'u', '0', '0', hexDigit (c.toNat / 16), hexDigit (c.toNat % 16)]
  else [c]

/-- A quoted string. -/
def quote (s : List Char) : List Char := '"' :: (s.flatMap escape ++ ['"'])

/-! ## Values -/

mutual
/-- The compact text of a value, as characters. -/
def chars : Value → List Char
  | .null => ['n', 'u', 'l', 'l']
  | .bool true => ['t', 'r', 'u', 'e']
  | .bool false => ['f', 'a', 'l', 's', 'e']
  | .num n => n.text .json
  | .str s => quote s.toList
  | .arr items => '[' :: (itemChars items ++ [']'])
  | .obj entries => '{' :: (entryChars entries ++ ['}'])

/-- Items separated by commas. -/
def itemChars : List Value → List Char
  | [] => []
  | [v] => chars v
  | v :: w :: rest => chars v ++ ',' :: itemChars (w :: rest)

/-- Entries separated by commas. -/
def entryChars : List (String × Value) → List Char
  | [] => []
  | [(k, v)] => quote k.toList ++ ':' :: chars v
  | (k, v) :: e :: rest => quote k.toList ++ ':' :: chars v ++ ',' :: entryChars (e :: rest)
end

/-- The compact text of a value. -/
def text (v : Value) : String := String.ofList (chars v)

end RuleEngine.Json
