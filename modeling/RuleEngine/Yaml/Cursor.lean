import RuleEngine.Yaml.Character

/-!
# RuleEngine.Yaml.Cursor

A place in a text: the characters that are left, and the line and column they
start in.
-/

namespace RuleEngine.Yaml

/-- A place in a text.  `index` counts the characters before it. -/
structure Cursor where
  rest : List Char
  index : Nat
  line : Nat
  column : Nat

namespace Cursor

/-- The start of a text. -/
def start (cs : List Char) : Cursor := ⟨cs, 0, 0, 0⟩

/-- Whether a carriage return and a line feed come next. -/
def atPair : List Char → Bool
  | '\r' :: '\n' :: _ => true
  | _ => false

/-- The place after the next character.  A carriage return and a line feed
after it are one line break. -/
def step (c : Cursor) : Cursor :=
  match c.rest with
  | [] => c
  | x :: rest =>
    if isBreak x && !atPair (x :: rest) then ⟨rest, c.index + 1, c.line + 1, 0⟩
    else ⟨rest, c.index + 1, c.line, c.column + 1⟩

/-- The place after some characters. -/
def advance : Nat → Cursor → Cursor
  | 0, c => c
  | n + 1, c => advance n c.step

/-- The place after all characters of a class that come next. -/
def skipWhile (p : Char → Bool) (c : Cursor) : Cursor :=
  c.advance (c.rest.takeWhile p).length

/-- The place after the blanks that come next. -/
def skipBlanks (c : Cursor) : Cursor := c.skipWhile isBlank

/-- The place at the end of the line. -/
def skipLine (c : Cursor) : Cursor := c.skipWhile fun x => !isBreak x

/-- The next character. -/
def peek (c : Cursor) : Option Char := c.rest.head?

/-- Whether the next character is the given one. -/
def sees (c : Cursor) (x : Char) : Bool := c.rest.head? = some x

/-- Whether a line break comes next. -/
def atBreak (c : Cursor) : Bool := c.rest.head?.any isBreak

/-- Whether a blank comes next. -/
def atBlank (c : Cursor) : Bool := c.rest.head?.any isBlank

/-- The line break that comes next, and the place after it.  Separators of
lines and paragraphs stay what they are, other breaks are line feeds. -/
def takeBreak (c : Cursor) : List Char × Cursor :=
  match c.rest with
  | [] => ([], c)
  | x :: _ =>
    let after := if atPair c.rest then c.advance 2 else c.step
    if !isBreak x then ([], c)
    else if x = '\u2028' ∨ x = '\u2029' then ([x], after)
    else (['\n'], after)

/-- The place after the line break that comes next, if one does. -/
def skipBreak (c : Cursor) : Cursor := c.takeBreak.2

/-- Whether the place is the start of a line with a document marker. -/
def atMarker (mark : Char) (c : Cursor) : Bool :=
  c.column = 0 && match c.rest with
    | x :: y :: z :: rest => x = mark && y = mark && z = mark && endsWord rest
    | _ => false

end Cursor

end RuleEngine.Yaml
