import RuleEngine.Yaml.Token.Stream

/-!
# RuleEngine.Yaml.Node

The tree of nodes that the tokens of a document describe.  Aliases are nodes of
their own; what they stand for is kept beside the tree.

Anchors are numbered: an anchor gets the count of the distinct names that were
used before it, so that two anchors can have one number when a name is used
again.  An alias stands for the anchor of its number that comes last in the
document.
-/

namespace RuleEngine.Yaml

/-- A node.  The slot of an anchored node says how many anchored nodes start
before it. -/
inductive Node where
  /-- The node of an anchor. -/
  | alias (number : Nat)
  | scalar (slot : Option Nat) (tag : Option String) (plain : Bool) (text : String)
  | sequence (slot : Option Nat) (tag : Option String) (items : List Node)
  | mapping (slot : Option Nat) (tag : Option String) (entries : List (Node × Node))

/-- What is left to read, and the anchors so far. -/
structure Feed where
  tokens : List Token
  /-- The number of each name. -/
  names : Keyed Nat
  /-- The number of each slot, last slot first. -/
  numbers : List Nat

/-- A reader of a part of a document. -/
abbrev NodeReader := StateT Feed Option

namespace NodeReader

/-! ## Tokens -/

/-- The next token. -/
def peek : NodeReader (Option Token) := do return (← get).tokens.head?

/-- Drops the next token. -/
def skip : NodeReader Unit := modify fun s => { s with tokens := s.tokens.tail }

/-- Fails. -/
def refuse {α : Type} : NodeReader α := fun _ => none

/-- Whether one of the given tokens or the end comes next; `nil` is the end. -/
def sees (ts : List Token) : NodeReader Bool := do
  return (← peek).any ts.contains

/-- Drops the next token if it is the given one, and tells whether it was. -/
def accept (t : Token) : NodeReader Bool := do
  if (← peek) = some t then
    skip
    return true
  else return false

/-! ## Properties of a node -/

/-- Numbers an anchor and gives it a slot. -/
def addAnchor (name : String) : NodeReader Nat := do
  let s ← get
  let number := s.names.length
  set { s with names := Keyed.set name number s.names, numbers := number :: s.numbers }
  return s.numbers.length

/-- The anchor in front of a node. -/
def anchor? : NodeReader (Option Nat) := do
  match ← peek with
  | some (.anchor name) =>
    skip
    return some (← addAnchor name)
  | _ => return none

/-- The tag in front of a node. -/
def tag? : NodeReader (Option TagText) := do
  match ← peek with
  | some (.tag tag) =>
    skip
    return some tag
  | _ => return none

/-- The full text of a tag: what its handle stands for, and the rest. -/
def fullTag (handles : Keyed String) (tag : TagText) : NodeReader String :=
  if tag.handle = "" then return tag.suffix
  else match Keyed.find? tag.handle handles with
    | some start => return start ++ tag.suffix
    | none => refuse

/-- The slot of the anchor and the text of the tag of a node, in either
order. -/
def properties (handles : Keyed String) : NodeReader (Option Nat × Option String) := do
  let first ← anchor?
  let tag ← tag?
  let slot ← match first with
    | some slot => pure (some slot)
    | none => if tag.isSome then anchor? else pure none
  match tag with
  | some tag => return (slot, some (← fullTag handles tag))
  | none => return (slot, none)

/-- A node that is not written. -/
def nothing : Node := .scalar none none true ""

/-! ## Nodes -/

mutual
/-- A node.  `block` admits block collections, and `unindented` admits the
items of a sequence that stand under a key without indentation. -/
def node (handles : Keyed String) (block unindented : Bool) : (fuel : Nat) → NodeReader Node
  | 0 => refuse
  | fuel + 1 => do
    match ← peek with
    | some (.alias name) =>
      skip
      match Keyed.find? name (← get).names with
      | some number => return .alias number
      | none => refuse
    | _ =>
      let (slot, tag) ← properties handles
      match ← peek with
      | some .item =>
        if unindented then return .sequence slot tag (← unindentedItems handles fuel)
        else blank slot tag
      | some (.scalar plain text) =>
        skip
        return .scalar slot tag plain text
      | some .flowSequenceStart =>
        skip
        return .sequence slot tag (← flowItems handles true fuel)
      | some .flowMappingStart =>
        skip
        return .mapping slot tag (← flowEntries handles true fuel)
      | some .sequenceStart =>
        if block then
          skip
          return .sequence slot tag (← blockItems handles fuel)
        else blank slot tag
      | some .mappingStart =>
        if block then
          skip
          return .mapping slot tag (← blockEntries handles fuel)
        else blank slot tag
      | _ => blank slot tag

/-- A node that has properties and nothing else. -/
def blank (slot : Option Nat) (tag : Option String) : NodeReader Node :=
  if slot.isSome || tag.isSome then return .scalar slot tag true "" else refuse

/-- A node, unless one of the given tokens comes next. -/
def nodeUnless (handles : Keyed String) (block unindented : Bool) (stops : List Token) :
    (fuel : Nat) → NodeReader Node
  | 0 => refuse
  | fuel + 1 => do
    if ← sees stops then return nothing else node handles block unindented fuel

/-- The items of a block sequence. -/
def blockItems (handles : Keyed String) : (fuel : Nat) → NodeReader (List Node)
  | 0 => refuse
  | fuel + 1 => do
    if ← accept .item then
      let first ← nodeUnless handles true false [.item, .blockEnd] fuel
      return first :: (← blockItems handles fuel)
    else if ← accept .blockEnd then return []
    else refuse

/-- The items of a sequence without indentation. -/
def unindentedItems (handles : Keyed String) : (fuel : Nat) → NodeReader (List Node)
  | 0 => refuse
  | fuel + 1 => do
    if ← accept .item then
      let first ← nodeUnless handles true false [.item, .key, .value, .blockEnd] fuel
      return first :: (← unindentedItems handles fuel)
    else return []

/-- The entries of a block mapping. -/
def blockEntries (handles : Keyed String) : (fuel : Nat) → NodeReader (List (Node × Node))
  | 0 => refuse
  | fuel + 1 => do
    if ← accept .key then
      let stops := [Token.key, .value, .blockEnd]
      let key ← nodeUnless handles true true stops fuel
      let value ←
        if ← accept .value then nodeUnless handles true true stops fuel else pure nothing
      return (key, value) :: (← blockEntries handles fuel)
    else if ← accept .blockEnd then return []
    else refuse

/-- The items of a sequence in brackets, from the first or from the comma
before the next. -/
def flowItems (handles : Keyed String) (first : Bool) : (fuel : Nat) → NodeReader (List Node)
  | 0 => refuse
  | fuel + 1 => do
    if ← accept .flowSequenceEnd then return []
    else
      let separated ← if first then pure true else accept .comma
      if !separated then refuse
      else if ← accept .flowSequenceEnd then return []
      else
        let item ←
          if ← accept .key then
            return .mapping none none [← flowPair handles fuel] :: (← flowItems handles false fuel)
          else node handles false false fuel
        return item :: (← flowItems handles false fuel)

/-- An entry that is an item of a sequence in brackets.  Where its key is not
written, the token after it is dropped. -/
def flowPair (handles : Keyed String) : (fuel : Nat) → NodeReader (Node × Node)
  | 0 => refuse
  | fuel + 1 => do
    let key ←
      if ← sees [.value, .comma, .flowSequenceEnd] then do
        skip
        pure nothing
      else node handles false false fuel
    let value ←
      if ← accept .value then nodeUnless handles false false [.comma, .flowSequenceEnd] fuel
      else pure nothing
    return (key, value)

/-- The entries of a mapping in braces, from the first or from the comma before
the next. -/
def flowEntries (handles : Keyed String) (first : Bool) :
    (fuel : Nat) → NodeReader (List (Node × Node))
  | 0 => refuse
  | fuel + 1 => do
    if ← accept .flowMappingEnd then return []
    else
      let separated ← if first then pure true else accept .comma
      if !separated then refuse
      else if ← accept .flowMappingEnd then return []
      else if ← accept .key then
        let key ← nodeUnless handles false false [.value, .comma, .flowMappingEnd] fuel
        let value ←
          if ← accept .value then nodeUnless handles false false [.comma, .flowMappingEnd] fuel
          else pure nothing
        return (key, value) :: (← flowEntries handles false fuel)
      else
        let key ← node handles false false fuel
        return (key, nothing) :: (← flowEntries handles false fuel)
end

/-! ## Documents -/

/-- The handles that every document knows. -/
def commonHandles : Keyed String := [("!", "!"), ("!!", "tag:yaml.org,2002:")]

/-- The directives of a document: one version at most, which must be 1.1 or
1.2, and each handle once. -/
def directives (versioned : Bool) (handles : Keyed String) :
    (fuel : Nat) → NodeReader (Keyed String)
  | 0 => refuse
  | fuel + 1 => do
    match ← peek with
    | some (.version major minor) =>
      if versioned || major ≠ 1 || (minor ≠ 1 && minor ≠ 2) then refuse
      else
        skip
        directives true handles fuel
    | some (.handle handle start) =>
      if Keyed.has handle handles then refuse
      else
        skip
        directives versioned (handles ++ [(handle, start)]) fuel
    | _ => return handles

/-- Drops the document ends that come next. -/
def skipEnds (fuel : Nat) : NodeReader Unit :=
  match fuel with
  | 0 => pure ()
  | fuel + 1 => do if ← accept .documentEnd then skipEnds fuel

/-- Whether the document starts with directives or a marker. -/
def isExplicit : Option Token → Bool
  | some (.version ..) | some (.handle ..) | some .documentStart => true
  | _ => false

/-- The root of a document after its marker. -/
def content (handles : Keyed String) (fuel : Nat) : NodeReader Node := do
  match ← peek with
  | none | some (.version ..) | some (.handle ..) | some .documentStart | some .documentEnd =>
    return nothing
  | some _ => node handles true false fuel

/-- The only document of a text; a text without one holds nothing. -/
def document (fuel : Nat) : NodeReader Node := do
  let root ←
    match ← peek with
    | none => pure nothing
    | next =>
      if isExplicit next then
        let handles ← directives false [] fuel
        if !(← accept .documentStart) then refuse
        content (handles ++ commonHandles) fuel
      else node commonHandles true false fuel
  skipEnds fuel
  if (← peek).isSome then refuse
  return root

end NodeReader

end RuleEngine.Yaml
