import RuleEngine.Json.Reader
import RuleEngine.Yaml.Token.Folding

/-!
# RuleEngine.Yaml.Token.Quoted

Scalars in single and double quotes.
-/

namespace RuleEngine.Yaml.Quoted

/-! ## Escapes -/

/-- The character of a one-letter escape. -/
def simpleEscape? (c : Char) : Option Char :=
  match c with
  | '0' => some '\x00'
  | 'a' => some '\x07'
  | 'b' => some '\x08'
  | 't' => some '\t'
  | '\t' => some '\t'
  | 'n' => some '\n'
  | 'v' => some '\x0b'
  | 'f' => some '\x0c'
  | 'r' => some '\r'
  | 'e' => some '\x1b'
  | ' ' => some ' '
  | '"' => some '"'
  | '/' => some '/'
  | '\\' => some '\\'
  | 'N' => some '\u0085'
  | '_' => some '\u00a0'
  | 'L' => some '\u2028'
  | 'P' => some '\u2029'
  | _ => none

/-- The number of digits of a numeric escape. -/
def escapeWidth? (c : Char) : Option Nat :=
  match c with
  | 'x' => some 2
  | 'u' => some 4
  | 'U' => some 8
  | _ => none

/-- The number that hexadecimal digits write. -/
def hexNumber? (cs : List Char) : Option Nat :=
  cs.foldlM (fun n c => (Json.hexValue? c).map fun d => n * 16 + d) 0

/-- An escape after its backslash: the character, and how many characters the
escape has. -/
def escape? : List Char → Option (Char × Nat)
  | [] => none
  | c :: rest =>
    match simpleEscape? c with
    | some x => some (x, 1)
    | none => do
      let width ← escapeWidth? c
      let digits := rest.take width
      if digits.length < width then none
      let code ← hexNumber? digits
      let x ← Json.charOfCode? code
      some (x, width + 1)

/-! ## Scalars -/

/-- The visible characters up to the next white space or the closing quote,
and whether an escaped line break ended them. -/
def word (single : Bool) : (fuel : Nat) → Cursor → Option (List Char × Bool × Cursor)
  | 0, _ => none
  | fuel + 1, c =>
    match c.rest with
    | [] => some ([], false, c)
    | x :: rest =>
      if endsWord c.rest then some ([], false, c)
      else if single && x = '\'' && rest.head? = some '\'' then do
        let (cs, escaped, c) ← word single fuel (c.advance 2)
        some ('\'' :: cs, escaped, c)
      else if x = (if single then '\'' else '"') then some ([], false, c)
      else if !single && x = '\\' then
        if rest.head?.any isBreak then some ([], true, c.step.skipBreak)
        else do
          let (y, width) ← escape? rest
          let (cs, escaped, c) ← word single fuel (c.advance (width + 1))
          some (y :: cs, escaped, c)
      else do
        let (cs, escaped, c) ← word single fuel c.step
        some (x :: cs, escaped, c)

/-- White space inside a quoted scalar. -/
def gap : (fuel : Nat) → Gap → Cursor → Gap × Cursor
  | 0, g, c => (g, c)
  | fuel + 1, g, c =>
    match c.rest with
    | [] => (g, c)
    | x :: _ =>
      if isBlank x then gap fuel (g.addBlank x) c.step
      else if isBreak x then
        let (cs, c) := c.takeBreak
        gap fuel (g.addBreak cs) c
      else (g, c)

/-- The rest of a scalar after its opening quote; the closing one is
consumed.  No line may start with a document marker. -/
def body (single : Bool) : (fuel : Nat) → Cursor → Option (List Char × Cursor)
  | 0, _ => none
  | fuel + 1, c => do
    if c.atMarker '-' || c.atMarker '.' || c.rest.isEmpty then none
    let (cs, escaped, c) ← word single (c.rest.length + 1) c
    if c.sees (if single then '\'' else '"') then some (cs, c.step)
    else
      let (g, c) := gap (c.rest.length + 1) (if escaped then .escapedBreak else .none) c
      let (more, c) ← body single fuel c
      some (cs ++ g.fold ++ more, c)

/-- A quoted scalar that starts at the cursor. -/
def read (single : Bool) (c : Cursor) : Option (String × Cursor) := do
  let (cs, after) ← body single (c.rest.length + 1) c.step
  some (String.ofList cs, after)

end RuleEngine.Yaml.Quoted
