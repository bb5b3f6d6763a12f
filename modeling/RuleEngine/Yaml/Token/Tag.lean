import RuleEngine.Json.Reader
import RuleEngine.Yaml.Token

/-!
# RuleEngine.Yaml.Token.Tag

Tags, anchors and directives.
-/

namespace RuleEngine.Yaml

/-! ## Locators -/

/-- Characters of a tag; in angle brackets and directives commas and brackets
too. -/
def isTagChar (wide : Bool) (c : Char) : Bool :=
  isWord c || ";/?:@&=+$.%!~*'()".toList.contains c || (wide && ",[]".toList.contains c)

/-- The byte of an escape, after its percent sign. -/
def escapedByte? : List Char → Option (Nat × List Char)
  | a :: b :: rest => do
    let high ← Json.hexValue? a
    let low ← Json.hexValue? b
    some (high * 16 + low, rest)
  | _ => none

/-- The number of bytes that follow a first byte of UTF-8. -/
def followers? (byte : Nat) : Option Nat :=
  if byte < 0x80 then some 0
  else if byte / 32 = 6 then some 1
  else if byte / 16 = 14 then some 2
  else if byte / 8 = 30 then some 3
  else none

/-- Escaped bytes that continue a character. -/
def continuation : (count code : Nat) → List Char → Option (Nat × List Char)
  | 0, code, cs => some (code, cs)
  | count + 1, code, '%' :: rest => do
    let (byte, rest) ← escapedByte? rest
    if byte / 64 = 2 then continuation count (code * 64 + byte % 64) rest else none
  | _ + 1, _, _ => none

/-- An escaped character after its first percent sign. -/
def escapedChar? (cs : List Char) : Option (Char × List Char) := do
  let (byte, rest) ← escapedByte? cs
  let count ← followers? byte
  let lead := if count = 0 then byte else byte % (1 <<< (6 - count))
  let (code, rest) ← continuation count lead rest
  some ((Json.charOfCode? code).getD '\ufffd', rest)

/-- The characters of a tag, with escapes decoded, and what follows them. -/
def tagChars (wide : Bool) : (fuel : Nat) → List Char → Option (List Char × List Char)
  | 0, _ => none
  | _, [] => some ([], [])
  | fuel + 1, c :: rest =>
    if c = '%' then do
      let (x, rest) ← escapedChar? rest
      let (cs, rest) ← tagChars wide fuel rest
      some (x :: cs, rest)
    else if isTagChar wide c then do
      let (cs, rest) ← tagChars wide fuel rest
      some (c :: cs, rest)
    else some ([], c :: rest)

/-- The characters of a tag at the cursor. -/
def readTagChars (wide : Bool) (c : Cursor) : Option (List Char × Cursor) := do
  let (cs, rest) ← tagChars wide (c.rest.length + 1) c.rest
  some (cs, c.advance (c.rest.length - rest.length))

/-- A text that ends at its first null character. -/
def textBeforeNull (cs : List Char) : String := String.ofList (cs.takeWhile (· ≠ '\x00'))

/-! ## Tags -/

/-- A handle at the cursor: an exclamation mark, word characters, and another
exclamation mark, if it is there. -/
def readHandle (c : Cursor) : Option (List Char × Cursor) :=
  if !c.sees '!' then none
  else
    let name := c.step.rest.takeWhile isWord
    let c := c.step.skipWhile isWord
    if c.sees '!' then some ('!' :: (name ++ ['!']), c.step) else some ('!' :: name, c)

/-- Whether a handle ends in an exclamation mark of its own. -/
def isFullHandle (cs : List Char) : Bool := 1 < cs.length && cs.getLast? = some '!'

/-- A tag in angle brackets. -/
def readVerbatim (c : Cursor) : Option (TagText × Cursor) := do
  let (cs, c) ← readTagChars true (c.advance 2)
  if cs.isEmpty || !c.sees '>' then none
  some (⟨"", textBeforeNull cs⟩, c.step)

/-- A tag with a handle. -/
def readShorthand (c : Cursor) : Option (TagText × Cursor) := do
  let (handle, c) ← readHandle c
  if isFullHandle handle then
    let (cs, c) ← readTagChars false c
    if cs.isEmpty then none
    some (⟨String.ofList handle, textBeforeNull cs⟩, c)
  else
    let (cs, c) ← readTagChars false c
    let suffix := textBeforeNull (handle.tail ++ cs)
    some (if suffix.isEmpty then ⟨"", "!"⟩ else ⟨"!", suffix⟩, c)

/-- A tag, which ends at white space, and in brackets at a comma too. -/
def readTag (inFlow : Bool) (c : Cursor) : Option (TagText × Cursor) := do
  let (tag, c) ← if c.step.sees '<' then readVerbatim c else readShorthand c
  if endsWord c.rest || (inFlow && c.sees ',') then some (tag, c) else none

/-! ## Anchors -/

/-- The name of an anchor or an alias, after its mark. -/
def readName (c : Cursor) : Option (String × Cursor) :=
  let name := c.step.rest.takeWhile isWord
  let c := c.step.skipWhile isWord
  let closed := endsWord c.rest || c.rest.head?.any fun x => "?:,]\x7d%@`".toList.contains x
  if name.isEmpty || !closed then none else some (String.ofList name, c)

/-! ## Directives -/

/-- A number of a version, of nine digits at most. -/
def readVersionNumber (c : Cursor) : Option (Nat × Cursor) :=
  let digits := c.rest.takeWhile Char.isDigit
  if digits.isEmpty || 9 < digits.length then none
  else some (Nat.ofDigitChars 10 digits 0, c.skipWhile Char.isDigit)

/-- The version of a version directive. -/
def readVersion (c : Cursor) : Option (Token × Cursor) := do
  let (major, c) ← readVersionNumber c.skipBlanks
  if !c.sees '.' then none
  let (minor, c) ← readVersionNumber c.step
  some (.version major minor, c)

/-- The handle and the beginning of tags of a tag directive. -/
def readHandleDirective (c : Cursor) : Option (Token × Cursor) := do
  let (handle, c) ← readHandle c.skipBlanks
  if !(isFullHandle handle || handle = ['!']) || !c.atBlank then none
  let (start, c) ← readTagChars true c.skipBlanks
  if start.isEmpty || !endsWord c.rest then none
  some (.handle (String.ofList handle) (textBeforeNull start), c)

/-- A directive, to the end of its line. -/
def readDirective (c : Cursor) : Option (Token × Cursor) := do
  let name := c.step.rest.takeWhile isWord
  let c := c.step.skipWhile isWord
  if !endsWord c.rest then none
  let (token, c) ←
    if name = "YAML".toList then readVersion c
    else if name = "TAG".toList then readHandleDirective c
    else none
  let c := c.skipBlanks
  let c := if c.sees '#' then c.skipLine else c
  if endsLine c.rest then some (token, c.skipBreak) else none

end RuleEngine.Yaml
