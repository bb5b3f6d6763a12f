import RuleEngine.Yaml.Token.Folding

/-!
# RuleEngine.Yaml.Token.Plain

Plain scalars.  They end at a colon before white space, at a number sign after
white space, in brackets at a bracket, brace or comma, and in block context
where the indentation does.
-/

namespace RuleEngine.Yaml.Plain

/-- Brackets, braces and commas. -/
def isFlowIndicator (c : Char) : Bool :=
  c = ',' || c = '[' || c = ']' || c = '\x7b' || c = '\x7d'

/-- A colon that must not stand in a plain scalar in brackets. -/
def isBadColon (inFlow : Bool) (x : Char) (rest : List Char) : Bool :=
  inFlow && x = ':' && rest.head?.any fun y => isFlowIndicator y || y = '?'

/-- Whether a plain scalar ends before the character. -/
def ends (inFlow : Bool) (x : Char) (rest : List Char) : Bool :=
  (x = ':' && endsWord rest) || (inFlow && isFlowIndicator x)

/-- The characters up to white space or the end of the scalar; the flag says
that the scalar ends there. -/
def word (inFlow : Bool) : (fuel : Nat) → Cursor → Option (List Char × Cursor)
  | 0, _ => none
  | fuel + 1, c =>
    match c.rest with
    | [] => some ([], c)
    | x :: rest =>
      if isBlank x || isBreak x then some ([], c)
      else if isBadColon inFlow x rest then none
      else if ends inFlow x rest then some ([], c)
      else do
        let (cs, c) ← word inFlow fuel c.step
        some (x :: cs, c)

/-- White space after a word.  A tab must not indent a line less than the
scalar is indented. -/
def gap (indent : Int) : (fuel : Nat) → Gap → Cursor → Option (Gap × Cursor)
  | 0, _, _ => none
  | fuel + 1, g, c =>
    match c.rest with
    | [] => some (g, c)
    | x :: _ =>
      if isBlank x then
        if g.broken && (c.column : Int) < indent && x = '\t' then none
        else gap indent fuel (g.addBlank x) c.step
      else if isBreak x then
        let (cs, c) := c.takeBreak
        gap indent fuel (g.addBreak cs) c
      else some (g, c)

/-- The rest of a scalar, after white space: what is written of it, whether a
line break came last, and the cursor after that. -/
def body (inFlow : Bool) (indent : Int) :
    (fuel : Nat) → Gap → Cursor → Option (List Char × Bool × Cursor)
  | 0, _, _ => none
  | fuel + 1, g, c => do
    if c.atMarker '-' || c.atMarker '.' || c.sees '#' then some ([], g.broken, c)
    else
      let (cs, after) ← word inFlow (c.rest.length + 1) c
      let text := if cs.isEmpty then [] else g.fold ++ cs
      let g := if cs.isEmpty then g else .none
      if !(after.atBlank || after.atBreak) then some (text, g.broken, after)
      else
        let (g, after) ← gap indent (after.rest.length + 1) g after
        if !inFlow && (after.column : Int) < indent then some (text, g.broken, after)
        else
          let (more, broken, after) ← body inFlow indent fuel g after
          some (text ++ more, broken, after)

/-- A plain scalar that starts at the cursor, in a block of the given
indentation: its text, whether it was followed by a line break, and the cursor
after it. -/
def read (inFlow : Bool) (indent : Int) (c : Cursor) : Option (String × Bool × Cursor) := do
  let (cs, broken, after) ← body inFlow (indent + 1) (c.rest.length + 1) .none c
  some (String.ofList cs, broken, after)

end RuleEngine.Yaml.Plain
