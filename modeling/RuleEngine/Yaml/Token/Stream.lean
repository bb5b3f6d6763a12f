import RuleEngine.Yaml.Token.Block
import RuleEngine.Yaml.Token.Plain
import RuleEngine.Yaml.Token.Quoted
import RuleEngine.Yaml.Token.Tag

/-!
# RuleEngine.Yaml.Token.Stream

Reading the tokens of a text.

1. Indentation opens and closes block collections: a dash or a key further to
   the right than the block it is in opens a new one, a token further to the
   left closes what stands to the right of it.
2. A key is known to be one when its colon is read.  The place where a key may
   have started is kept until then, and the tokens that make it a key are put
   there afterwards.  A key stands on one line and has at most 1024 characters.
3. Inside brackets indentation says nothing.
-/

namespace RuleEngine.Yaml

/-- A place where a key may have started. -/
structure KeyStart where
  /-- The number of tokens before it. -/
  tokens : Nat
  index : Nat
  line : Nat
  column : Nat
  /-- Whether the block needs a key there. -/
  required : Bool

/-- The state of reading tokens. -/
structure Stream where
  cursor : Cursor
  /-- The tokens read so far, last first. -/
  tokens : List Token
  /-- The column of the innermost block collection, `-1` outside of all. -/
  indent : Int
  /-- The columns of the block collections around it. -/
  outer : List Int
  /-- Where a key may have started, for each pair of brackets around the cursor
  and outside of all, innermost first. -/
  keys : List (Option KeyStart)
  /-- Whether a key may start at the cursor. -/
  keyAllowed : Bool

namespace Stream

/-- The start of a text. -/
def start (cs : List Char) : Stream := ⟨.start cs, [], -1, [], [none], true⟩

/-- Whether the cursor is inside brackets. -/
def inFlow (s : Stream) : Bool := 1 < s.keys.length

/-- Adds a token. -/
def push (s : Stream) (t : Token) : Stream := { s with tokens := t :: s.tokens }

/-- Puts a token behind the first `n` tokens. -/
def insertAt (s : Stream) (n : Nat) (t : Token) : Stream :=
  { s with tokens := s.tokens.insertIdx (s.tokens.length - n) t }

/-- The state with another cursor. -/
def moveTo (s : Stream) (c : Cursor) : Stream := { s with cursor := c }

/-- The state with or without leave to start a key. -/
def allowKey (s : Stream) (allowed : Bool) : Stream := { s with keyAllowed := allowed }

/-! ## Keys -/

/-- Gives up the place where a key may have started at this level; a required
key must not be given up. -/
def dropKey (s : Stream) : Option Stream :=
  match s.keys with
  | some k :: keys => if k.required then none else some { s with keys := none :: keys }
  | _ => some s

/-- Remembers that a key may start at the cursor. -/
def saveKey (s : Stream) : Option Stream :=
  if !s.keyAllowed then some s
  else do
    let s ← s.dropKey
    let c := s.cursor
    let required := !s.inFlow && s.indent = (c.column : Int)
    some { s with keys := some ⟨s.tokens.length, c.index, c.line, c.column, required⟩ ::
      s.keys.tail }

/-- Whether a key that started at a place can no longer end at the cursor. -/
def isStale (c : Cursor) (k : KeyStart) : Bool := k.line < c.line || k.index + 1024 < c.index

/-- Gives up all places at which no key can have started any more. -/
def dropStale (s : Stream) : Option Stream := do
  let keys ← s.keys.mapM fun
    | none => some none
    | some k =>
      if isStale s.cursor k then if k.required then none else some none
      else some (some k)
  some { s with keys := keys }

/-! ## Indentation -/

/-- Opens a block collection at a column, unless one stands there already; its
token is put behind the first `n` tokens. -/
def openBlock (s : Stream) (column n : Nat) (t : Token) : Stream :=
  if s.inFlow || (column : Int) ≤ s.indent then s
  else { s.insertAt n t with indent := column, outer := s.indent :: s.outer }

/-- Closes the block collections to the right of a column. -/
def closeTo (column : Int) : List Int → Stream → Stream
  | [], s => s
  | indent :: outer, s =>
    if column < s.indent then
      closeTo column outer { s.push .blockEnd with indent := indent, outer := outer }
    else s

/-- Closes the block collections to the right of a column, outside of
brackets. -/
def closeBlocks (s : Stream) (column : Int) : Stream :=
  if s.inFlow then s else closeTo column s.outer s

/-! ## White space and comments -/

/-- Skips white space and comments up to the next token.  A new line outside of
brackets may start a key; a tab must not stand where one may.  A byte order mark
at the front of the text is skipped like a blank. -/
def skipSpace : (fuel : Nat) → Stream → Stream
  | 0, s => s
  | fuel + 1, s =>
    let tabs := s.inFlow || !s.keyAllowed
    let c := s.cursor
    let c := if c.index = 0 && c.sees '\ufeff' then c.step else c
    let c := c.skipWhile fun x => x = ' ' || (tabs && x = '\t')
    let c := if c.sees '#' then c.skipLine else c
    if c.atBreak then
      let s := s.moveTo c.skipBreak
      skipSpace fuel (if s.inFlow then s else s.allowKey true)
    else s.moveTo c

/-! ## Tokens -/

/-- A token of one character that is no part of a key. -/
def single (s : Stream) (t : Token) : Stream := (s.moveTo s.cursor.step).push t

/-- A directive. -/
def directive (s : Stream) : Option Stream := do
  let s ← (s.closeBlocks (-1)).dropKey
  let (token, c) ← readDirective s.cursor
  some (((s.allowKey false).moveTo c).push token)

/-- A marker of three characters. -/
def marker (s : Stream) (t : Token) : Option Stream := do
  let s ← (s.closeBlocks (-1)).dropKey
  some (((s.allowKey false).moveTo (s.cursor.advance 3)).push t)

/-- An opening bracket, which may start a key. -/
def openFlow (s : Stream) (t : Token) : Option Stream := do
  let s ← s.saveKey
  some ({ s with keys := none :: s.keys, keyAllowed := true }.single t)

/-- A closing bracket. -/
def closeFlow (s : Stream) (t : Token) : Option Stream := do
  let s ← s.dropKey
  let keys := if s.inFlow then s.keys.tail else s.keys
  some ({ s with keys := keys, keyAllowed := false }.single t)

/-- A comma. -/
def comma (s : Stream) : Option Stream := do
  let s ← s.dropKey
  some ((s.allowKey true).single .comma)

/-- A dash before an item. -/
def item (s : Stream) : Option Stream := do
  if !s.inFlow && !s.keyAllowed then none
  let s ← (s.openBlock s.cursor.column s.tokens.length .sequenceStart).dropKey
  some ((s.allowKey true).single .item)

/-- A question mark before a key. -/
def explicitKey (s : Stream) : Option Stream := do
  if !s.inFlow && !s.keyAllowed then none
  let s ← (s.openBlock s.cursor.column s.tokens.length .mappingStart).dropKey
  some ((s.allowKey (!s.inFlow)).single .key)

/-- A colon before a value.  What stands between the place where a key may have
started and the colon is a key. -/
def value (s : Stream) : Option Stream :=
  match s.keys with
  | some k :: keys =>
    let s := (s.insertAt k.tokens .key).openBlock k.column k.tokens .mappingStart
    some ({ s with keys := none :: keys, keyAllowed := false }.single .value)
  | _ =>
    if !s.inFlow && !s.keyAllowed then none
    else
      let s := s.openBlock s.cursor.column s.tokens.length .mappingStart
      some ((s.allowKey (!s.inFlow)).single .value)

/-- A token that may start a key, and after which none can. -/
def inKey (s : Stream) (read : Cursor → Option (Token × Cursor)) : Option Stream := do
  let s ← s.saveKey
  let (token, c) ← read s.cursor
  some (((s.allowKey false).moveTo c).push token)

/-- A block scalar. -/
def blockScalar (s : Stream) (folded : Bool) : Option Stream := do
  let s ← s.dropKey
  let (text, c) ← Block.read folded s.indent s.cursor
  some (((s.allowKey true).moveTo c).push (.scalar false text))

/-- A plain scalar; a new line after it may start a key. -/
def plainScalar (s : Stream) : Option Stream := do
  let s ← s.saveKey
  let (text, broken, c) ← Plain.read s.inFlow s.indent s.cursor
  some (((s.allowKey broken).moveTo c).push (.scalar true text))

/-- Characters that start no plain scalar. -/
def isIndicator (c : Char) : Bool := "-?:,[]\x7b\x7d#&*!|>'\"%@`".toList.contains c

/-- Whether a plain scalar starts with the character. -/
def startsPlain (inFlow : Bool) (x : Char) (rest : List Char) : Bool :=
  !(isIndicator x || isBlank x || isBreak x) ||
    (x = '-' && !rest.head?.any isBlank) ||
    (!inFlow && (x = '?' || x = ':') && !endsWord rest)

/-- The next token, which starts at the cursor with the given character. -/
def token (s : Stream) (x : Char) (rest : List Char) : Option Stream :=
  let c := s.cursor
  let indicates := s.inFlow || endsWord rest
  if c.column = 0 && x = '%' then s.directive
  else if c.atMarker '-' then s.marker .documentStart
  else if c.atMarker '.' then s.marker .documentEnd
  else if x = '[' then s.openFlow .flowSequenceStart
  else if x = '\x7b' then s.openFlow .flowMappingStart
  else if x = ']' then s.closeFlow .flowSequenceEnd
  else if x = '\x7d' then s.closeFlow .flowMappingEnd
  else if x = ',' then s.comma
  else if x = '-' && endsWord rest then s.item
  else if x = '?' && indicates then s.explicitKey
  else if x = ':' && indicates then s.value
  else if x = '*' then s.inKey fun c => (readName c).map fun r => (.alias r.1, r.2)
  else if x = '&' then s.inKey fun c => (readName c).map fun r => (.anchor r.1, r.2)
  else if x = '!' then s.inKey fun c => (readTag s.inFlow c).map fun r => (.tag r.1, r.2)
  else if x = '|' && !s.inFlow then s.blockScalar false
  else if x = '>' && !s.inFlow then s.blockScalar true
  else if x = '\'' then s.inKey fun c => (Quoted.read true c).map fun r => (.scalar false r.1, r.2)
  else if x = '"' then s.inKey fun c => (Quoted.read false c).map fun r => (.scalar false r.1, r.2)
  else if startsPlain s.inFlow x rest then s.plainScalar
  else none

/-- The end of the text: all blocks are closed, and no key may be missing. -/
def finish (s : Stream) : Option (List Token) := do
  let s ← (s.closeBlocks (-1)).dropKey
  some s.tokens.reverse

/-- All tokens from the cursor on. -/
def run : (fuel : Nat) → Stream → Option (List Token)
  | 0, _ => none
  | fuel + 1, s => do
    let s ← (skipSpace (s.cursor.rest.length + 1) s).dropStale
    let s := s.closeBlocks s.cursor.column
    match s.cursor.rest with
    | [] => s.finish
    | x :: rest =>
      let s ← s.token x rest
      run fuel s

end Stream

/-- The tokens of a text, every character of which must be allowed. -/
def tokens? (text : String) : Option (List Token) :=
  let cs := text.toList
  if cs.all isAllowed then Stream.run (cs.length + 1) (.start cs) else none

end RuleEngine.Yaml
