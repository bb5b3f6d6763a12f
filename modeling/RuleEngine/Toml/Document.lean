import RuleEngine.Toml.Number
import RuleEngine.Toml.Table

/-!
# RuleEngine.Toml.Document

Reading a TOML document as settings.
-/

namespace RuleEngine.Toml

/-! ## Values -/

/-- Skips a comment up to the end of the line. -/
def skipComment : List Char → Option (List Char)
  | '#' :: cs =>
    let rest := cs.dropWhile isPlain
    if rest.isEmpty || (newline? rest).isSome then some rest else none
  | cs => some cs

/-- Skips blanks, comments and line breaks. -/
def skipSpace : (fuel : Nat) → List Char → Option (List Char)
  | 0, _ => none
  | fuel + 1, cs => do
    let cs ← skipComment (skipBlanks cs)
    match newline? cs with
    | some rest => skipSpace fuel rest
    | none => some cs

/-- Skips white space between the items of a list. -/
def skipAll (cs : List Char) : Option (List Char) := skipSpace (cs.length + 1) cs

mutual
/-- A value. -/
def readValue : (fuel : Nat) → List Char → Option (Setting × List Char)
  | 0, _ => none
  | fuel + 1, cs =>
    match cs with
    | '"' :: _ | '\'' :: _ => (readString cs).map fun r => (.text r.1, r.2)
    | 't' :: 'r' :: 'u' :: 'e' :: rest => some (.bool true, rest)
    | 'f' :: 'a' :: 'l' :: 's' :: 'e' :: rest => some (.bool false, rest)
    | '[' :: rest => (readItems fuel rest).map fun rest => (.other, rest)
    | '\x7b' :: rest => do
      let (t, rest) ← match skipBlanks rest with
        | '\x7d' :: rest => some (Table.empty, rest)
        | rest => readEntries fuel .empty rest
      some (.table (Item.toSettings t.entries), rest)
    | _ => (readScalar cs).map fun rest => (.other, rest)

/-- The items of a list after its bracket or a comma; what they are does not
matter. -/
def readItems : (fuel : Nat) → List Char → Option (List Char)
  | 0, _ => none
  | fuel + 1, cs => do
    match ← skipAll cs with
    | ']' :: rest => some rest
    | cs =>
      let (_, rest) ← readValue fuel cs
      match ← skipAll rest with
      | ',' :: rest => readItems fuel rest
      | ']' :: rest => some rest
      | _ => none

/-- The entries of a table in braces, one at least, added to those before. -/
def readEntries : (fuel : Nat) → Table → List Char → Option (Table × List Char)
  | 0, _, _ => none
  | fuel + 1, t, cs => do
    let (key, rest) ← readKey (cs.length + 1) cs
    let rest ← expect '=' rest
    let (s, rest) ← readValue fuel (skipBlanks rest)
    let t ← t.setKey key s
    match skipBlanks rest with
    | ',' :: rest => readEntries fuel t rest
    | '\x7d' :: rest => some (t, rest)
    | _ => none
end

/-! ## Documents -/

/-- A document while it is read: its root table, and the path of the open
one. -/
structure Progress where
  root : Table
  path : List String

/-- A header after its opening bracket or brackets. -/
def readHeader (double : Bool) (p : Progress) (cs : List Char) :
    Option (Progress × List Char) := do
  let (key, rest) ← readKey (cs.length + 1) cs
  let rest ← expect ']' rest
  let rest ← if double then expect ']' rest else some rest
  let last ← key.getLast?
  let root ← p.root.change false (if double then Table.openNext last else Table.openTable last)
    key.dropLast
  some (⟨root, key⟩, rest)

/-- A key and its value. -/
def readPair (p : Progress) (cs : List Char) : Option (Progress × List Char) := do
  let (key, rest) ← readKey (cs.length + 1) cs
  let rest ← expect '=' rest
  let rest := skipBlanks rest
  let (s, rest) ← readValue (2 * rest.length + 2) rest
  let root ← p.root.change false (·.setKey key s) p.path
  some (⟨root, p.path⟩, rest)

/-- The content of a line. -/
def readLine (p : Progress) (cs : List Char) : Option (Progress × List Char) :=
  match cs with
  | [] => some (p, cs)
  | '#' :: _ => some (p, cs)
  | '[' :: '[' :: rest => readHeader true p rest
  | '[' :: rest => readHeader false p rest
  | _ => if (newline? cs).isSome then some (p, cs) else readPair p cs

/-- All lines. -/
def readLines : (fuel : Nat) → Progress → List Char → Option Table
  | 0, _, _ => none
  | fuel + 1, p, cs => do
    let (p, rest) ← readLine p (skipBlanks cs)
    let rest ← skipComment (skipBlanks rest)
    match newline? rest with
    | some rest => readLines fuel p rest
    | none => if rest.isEmpty then some p.root else none

/-- The text without a byte order mark at its front. -/
def dropMark : List Char → List Char
  | c :: cs => if c = '\ufeff' then cs else c :: cs
  | [] => []

/-- Reads a document. -/
def read? (text : String) : Option Settings := do
  let cs := dropMark text.toList
  let root ← readLines (cs.length + 1) ⟨.empty, []⟩ cs
  some (Item.toSettings root.entries)

end RuleEngine.Toml
