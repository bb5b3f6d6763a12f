import RuleEngine.Yaml.Cursor

/-!
# RuleEngine.Yaml.Token.Block

Literal and folded block scalars.
-/

namespace RuleEngine.Yaml.Block

/-! ## Header -/

/-- How the line breaks at the end of a block are treated. -/
inductive Chomping where
  /-- All are dropped. -/
  | strip
  /-- The first is kept. -/
  | clip
  /-- All are kept. -/
  | keep
deriving DecidableEq

/-- An indicator of chomping. -/
def chomping? (c : Cursor) : Option Chomping :=
  if c.sees '+' then some .keep else if c.sees '-' then some .strip else none

/-- An indicator of indentation; zero is none. -/
def increment? (c : Cursor) : Option Nat :=
  c.peek.bind fun x => if x.isDigit then some (x.toNat - '0'.toNat) else none

/-- The indicators after the bar or the angle, in either order. -/
def indicators (c : Cursor) : Option (Chomping × Nat × Cursor) :=
  match chomping? c with
  | some chomping =>
    let c := c.step
    match increment? c with
    | some 0 => none
    | some n => some (chomping, n, c.step)
    | none => some (chomping, 0, c)
  | none =>
    match increment? c with
    | some 0 => none
    | some n =>
      let c := c.step
      match chomping? c with
      | some chomping => some (chomping, n, c.step)
      | none => some (.clip, n, c)
    | none => some (.clip, 0, c)

/-- The rest of the header: blanks, a comment, and a line break. -/
def endHeader (c : Cursor) : Option Cursor :=
  let c := c.skipBlanks
  let c := if c.sees '#' then c.skipLine else c
  if endsLine c.rest then some c.skipBreak else none

/-! ## Lines -/

/-- Empty lines before the next line of the block.  While the indentation is
not known (`0`) the widest one met is remembered.  A tab must not stand in the
indentation. -/
def emptyLines (indent : Nat) :
    (fuel widest : Nat) → Cursor → Option (List Char × Nat × Cursor)
  | 0, _, _ => none
  | fuel + 1, widest, c =>
    let spaces := (c.rest.takeWhile (· = ' ')).length
    let c := c.advance (if indent = 0 then spaces else min spaces (indent - c.column))
    let widest := max widest c.column
    if (indent = 0 ∨ c.column < indent) ∧ c.sees '\t' then none
    else if c.atBreak then do
      let (cs, c) := c.takeBreak
      let (more, widest, c) ← emptyLines indent fuel widest c
      some (cs ++ more, widest, c)
    else some ([], widest, c)

/-- The lines of a block: its text so far is followed by the line break of the
last line and the empty lines after it. -/
structure Lines where
  lastBreak : List Char
  empty : List Char
  /-- Whether the last line started with a blank. -/
  blankLed : Bool

/-- What stands between the last line and the next, which starts with a blank
or not.  In a folded block a single line break between lines that start with no
blank becomes a blank, and of several the first is dropped. -/
def Lines.join (folded : Bool) (l : Lines) (blankLed : Bool) : List Char :=
  if folded && l.lastBreak = ['\n'] && !l.blankLed && !blankLed then
    if l.empty.isEmpty then [' '] else l.empty
  else l.lastBreak ++ l.empty

/-- What the end of a block keeps of its last line breaks. -/
def Lines.chomp (l : Lines) : Chomping → List Char
  | .strip => []
  | .clip => l.lastBreak
  | .keep => l.lastBreak ++ l.empty

/-- The lines of a block with a known indentation. -/
def body (folded : Bool) (chomping : Chomping) (indent : Nat) :
    (fuel : Nat) → Lines → Cursor → Option (List Char × Cursor)
  | 0, _, _ => none
  | fuel + 1, l, c =>
    if c.column = indent ∧ !c.rest.isEmpty then do
      let blankLed := c.atBlank
      let text := c.rest.takeWhile fun x => !isBreak x
      let (lastBreak, after) := c.skipLine.takeBreak
      let (empty, _, after) ← emptyLines indent (after.rest.length + 1) 0 after
      let (more, after) ← body folded chomping indent fuel ⟨lastBreak, empty, blankLed⟩ after
      some (l.join folded blankLed ++ text ++ more, after)
    else some (l.chomp chomping, c)

/-- A block scalar that starts at the cursor, in a block of the given
indentation (`-1` outside of all). -/
def read (folded : Bool) (outer : Int) (c : Cursor) : Option (String × Cursor) := do
  let (chomping, increment, c) ← indicators c.step
  let c ← endHeader c
  let given := if increment = 0 then 0 else (max outer 0).toNat + increment
  let (empty, widest, c) ← emptyLines given (c.rest.length + 1) 0 c
  let indent := if given = 0 then max widest (max (outer + 1).toNat 1) else given
  let (cs, c) ← body folded chomping indent (c.rest.length + 1) ⟨[], empty, false⟩ c
  some (String.ofList cs, c)

end RuleEngine.Yaml.Block
