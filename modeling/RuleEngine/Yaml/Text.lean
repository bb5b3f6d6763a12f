import RuleEngine.Yaml.Character
import RuleEngine.Yaml.Scalar

/-!
# RuleEngine.Yaml.Text

The YAML text of a value in block style.

1. A mapping writes each entry on a line of its own; nested mappings are
   indented by two blanks, and sequences under a key are not indented.
2. A text is written plain where it reads back as itself, in single quotes
   where its plain form would read as something else, and in double quotes
   where it needs escapes.  A text of several lines is written as a literal
   block, unless it stands in a key.
3. A key of several lines, or of more than 128 bytes, is written after `? ` and
   its value after `: `.
-/

namespace RuleEngine.Yaml

/-! ## Choice of a style -/

/-- The ways to write a text. -/
inductive Style where
  | plain
  | single
  | double
  | literal
deriving DecidableEq

/-- What is known of a text when a style is chosen. -/
structure Analysis where
  /-- It holds a line break. -/
  multiline : Bool
  plainAllowed : Bool
  singleAllowed : Bool
  literalAllowed : Bool

/-- Characters that cannot start a plain text. -/
def isLeadIndicator (c : Char) : Bool := "#,[]\x7b\x7d&*!|>'\"%@`".toList.contains c

/-- Whether a plain text would be taken for something else at its front. -/
def startsLikeIndicator : List Char → Bool
  | '-' :: '-' :: '-' :: _ => true
  | '.' :: '.' :: '.' :: _ => true
  | c :: rest =>
    isLeadIndicator c || ((c = '?' || c = ':' || c = '-') && endsWord rest)
  | [] => false

/-- Whether a plain text would end before its end: at a colon before a blank,
or at a number sign after one. -/
def endsEarly : List Char → Bool
  | [] => false
  | c :: rest =>
    (match rest with
      | ':' :: after => endsWord after
      | '#' :: _ => isBlank c || isBreak c
      | _ => false) || endsEarly rest

/-- Whether a character of the first class stands before one of the second. -/
def adjacent (first second : Char → Bool) : List Char → Bool
  | a :: b :: rest => (first a && second b) || adjacent first second (b :: rest)
  | _ => false

/-- What styles a text admits. -/
def analyze (cs : List Char) : Analysis :=
  if cs.isEmpty then ⟨false, true, true, false⟩
  else
    let isSpace (c : Char) : Bool := c = ' '
    let edges := cs.head?.toList ++ cs.getLast?.toList
    let breaks := cs.any isBreak
    let spaceBreak := adjacent isSpace isBreak cs
    let breakSpace := adjacent isBreak isSpace cs
    let special := cs.any fun c => !isPrintable c
    let hard := spaceBreak || special
    { multiline := breaks
      plainAllowed := !(hard || breaks || edges.any isSpace || startsLikeIndicator cs ||
        endsEarly cs)
      singleAllowed := !(hard || breakSpace)
      literalAllowed := !(hard || cs.getLast?.any isSpace) }

/-- The style a text asks for. -/
def wantedStyle (s : String) : Style :=
  if s.toList.contains '\n' then .literal
  else match Scalar.ofPlain s with
    | .str _ => if Scalar.isPadded s.toList then .single else .plain
    | _ => .single

/-- Whether a key can stand on the line of its value. -/
def isSimpleKey (s : String) : Bool := !(analyze s.toList).multiline && s.utf8ByteSize ≤ 128

/-- The style a text is written in; `inKey` is for keys on the line of their
value. -/
def style (inKey : Bool) (s : String) : Style :=
  let a := analyze s.toList
  let orDouble (allowed : Bool) (style : Style) : Style := if allowed then style else .double
  match wantedStyle s with
  | .plain => if a.plainAllowed then .plain else orDouble a.singleAllowed .single
  | .single => orDouble a.singleAllowed .single
  | .literal => orDouble (a.literalAllowed && !inKey) .literal
  | .double => .double

/-! ## Scalars -/

/-- A line break and blanks up to a column. -/
def newline (indent : Nat) : List Char := '\n' :: List.replicate indent ' '

/-- The rest of a text in single quotes, after a line break if `broken`.  Line
breaks are those other than the line feed; the text after them is indented. -/
def singleChars (indent : Nat) (broken : Bool) : List Char → List Char
  | [] => if broken then List.replicate indent ' ' ++ ['\''] else ['\'']
  | c :: rest =>
    if isBreak c then c :: singleChars indent true rest
    else
      (if broken then List.replicate indent ' ' else []) ++
        (if c = '\'' then ['\'', '\''] else [c]) ++ singleChars indent false rest

/-- The uppercase hexadecimal digits of a code, to a width. -/
def hexDigits (width n : Nat) : List Char :=
  let digits := (Nat.toDigits 16 n).map Char.toUpper
  List.replicate (width - digits.length) '0' ++ digits

/-- A character inside double quotes. -/
def escape (c : Char) : List Char :=
  if c = '"' then ['\\', '"']
  else if c = '\\' then ['\\', '\\']
  else if isPrintable c && !isBreak c then [c]
  else if c = '\x00' then ['\\', '0']
  else if c = '\x07' then ['\\', 'a']
  else if c = '\x08' then ['\\', 'b']
  else if c = '\t' then ['\\', 't']
  else if c = '\n' then ['\\', 'n']
  else if c = '\x0b' then ['\\', 'v']
  else if c = '\x0c' then ['\\', 'f']
  else if c = '\r' then ['\\', 'r']
  else if c = '\x1b' then ['\\', 'e']
  else if c = '\u0085' then ['\\', 'N']
  else if c = '\u2028' then ['\\', 'L']
  else if c = '\u2029' then ['\\', 'P']
  else if c.toNat ≤ 0xff then '\\' :: 'x' :: hexDigits 2 c.toNat
  else if c.toNat ≤ 0xffff then '\\' :: 'u' :: hexDigits 4 c.toNat
  else '\\' :: 'U' :: hexDigits 8 c.toNat

/-- What follows the bar of a literal block: the indentation when the text
starts with a blank, and how its last line breaks are kept. -/
def literalHints (cs : List Char) : List Char :=
  let lead := match cs with
    | c :: _ => if c = ' ' || isBreak c then ['2'] else []
    | [] => []
  let tail := match cs.reverse with
    | last :: before =>
      if !isBreak last then ['-']
      else match before with
        | [] => ['+']
        | c :: _ => if isBreak c then ['+'] else []
    | [] => ['-']
  lead ++ tail

/-- The lines of a literal block, each indented, empty ones not. -/
def literalLines (indent : Nat) (atStart : Bool) : List Char → List Char
  | [] => []
  | c :: rest =>
    if isBreak c then c :: literalLines indent true rest
    else
      (if atStart then List.replicate indent ' ' else []) ++ c :: literalLines indent false rest

/-- A text in its style; the lines of a literal block start at the column
`indent`. -/
def strChars (inKey : Bool) (indent : Nat) (s : String) : List Char :=
  let cs := s.toList
  match style inKey s with
  | .plain => cs
  | .single => '\'' :: singleChars indent false cs
  | .double => '"' :: (cs.flatMap escape ++ ['"'])
  | .literal => '|' :: (literalHints cs ++ '\n' :: literalLines indent true cs)

/-! ## Values -/

/-- A new line for the next entry, unless the text before it ended with a line
break already. -/
def freshLine (before : List Char) (indent : Nat) : List Char :=
  let atStart := match before.getLast? with
    | some c => isBreak c
    | none => true
  if atStart then List.replicate indent ' ' else newline indent

/-- Whether a value is written in block style, over several lines. -/
def isBlock : Value → Bool
  | .arr items => !items.isEmpty
  | .obj entries => !entries.isEmpty
  | _ => false

mutual
/-- A value that starts in the current line.  Block collections have their
entries at the column `indent`, where the first one starts; the lines of a
text start two columns to the right of `base`. -/
def inlineChars (base indent : Nat) : Value → List Char
  | .null => "null".toList
  | .bool true => "true".toList
  | .bool false => "false".toList
  | .num n => n.text .yaml
  | .str s => strChars false (base + 2) s
  | .arr items => if items.isEmpty then ['[', ']'] else itemChars indent items []
  | .obj entries => if entries.isEmpty then ['\x7b', '\x7d'] else entryChars indent entries []

/-- The items of a sequence at a column, after what is written of it. -/
def itemChars (indent : Nat) : List Value → List Char → List Char
  | [], done => done
  | v :: rest, done =>
    let lead := if done.isEmpty then [] else freshLine done indent
    itemChars indent rest (done ++ lead ++ '-' :: ' ' :: inlineChars indent (indent + 2) v)

/-- The entries of a mapping at a column, after what is written of it. -/
def entryChars (indent : Nat) : List (String × Value) → List Char → List Char
  | [], done => done
  | (key, v) :: rest, done =>
    let lead := if done.isEmpty then [] else freshLine done indent
    let entry :=
      if isSimpleKey key then
        strChars true (indent + 2) key ++ ':' :: (match v with
          | .arr (item :: items) => newline indent ++ itemChars indent (item :: items) []
          | .obj (e :: es) => newline (indent + 2) ++ entryChars (indent + 2) (e :: es) []
          | other => ' ' :: inlineChars indent indent other)
      else
        let written := '?' :: ' ' :: strChars false (indent + 2) key
        written ++ freshLine written indent ++ ':' :: ' ' :: inlineChars indent (indent + 2) v
    entryChars indent rest (done ++ lead ++ entry)
end

/-- The YAML text of a value. -/
def text (v : Value) : String :=
  let cs := inlineChars 0 0 v
  String.ofList (cs ++ freshLine cs 0)

end RuleEngine.Yaml
