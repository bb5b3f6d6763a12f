import RuleEngine.Yaml.Node
import RuleEngine.Yaml.Scalar

/-!
# RuleEngine.Yaml.Document

Reading a YAML text as a value.

1. The text holds one document.
2. Collections nest at most `maxDepth` levels, those that aliases stand for
   included, and the aliases are followed at most a hundred times as often as
   the document has parts.
3. A key is a scalar and is taken as it is written.  A tag that is not of the
   core schema makes a scalar text; a local tag is refused.
4. A number that a document value cannot hold is refused if it is an integer,
   and null if it is not finite.
-/

namespace RuleEngine.Yaml

/-- The content of a document, aliases replaced by what they stand for. -/
inductive Tree where
  | scalar (s : Scalar)
  | sequence (items : List Tree)
  | mapping (entries : List (String × Tree))

/-- A document: its root, and the numbers of the slots. -/
structure Document where
  root : Node
  numbers : List Nat

/-- Reads the only document of a text. -/
def Document.read? (text : String) : Option Document := do
  let tokens ← tokens? text
  let (root, feed) ← NodeReader.document (4 * tokens.length + 8) ⟨tokens, [], []⟩
  some ⟨root, feed.numbers.reverse⟩

/-! ## Anchors -/

namespace Node

/-- The slot of a node. -/
def slot? : Node → Option Nat
  | .alias _ => none
  | .scalar slot .. | .sequence slot .. | .mapping slot .. => slot

mutual
/-- The number of parts of a document: one for a scalar or an alias, two for a
collection and those of its members. -/
def parts : Node → Nat
  | .alias _ | .scalar .. => 1
  | .sequence _ _ items => partsItems items + 2
  | .mapping _ _ entries => partsEntries entries + 2

/-- The parts of items. -/
def partsItems : List Node → Nat
  | [] => 0
  | n :: ns => parts n + partsItems ns

/-- The parts of entries. -/
def partsEntries : List (Node × Node) → Nat
  | [] => 0
  | (k, v) :: es => parts k + parts v + partsEntries es
end

mutual
/-- The node in a slot. -/
def inSlot? (slot : Nat) : Node → Option Node
  | .alias _ => none
  | .scalar s tag plain text => if s = some slot then some (.scalar s tag plain text) else none
  | .sequence s tag items =>
    if s = some slot then some (.sequence s tag items) else inSlotItems? slot items
  | .mapping s tag entries =>
    if s = some slot then some (.mapping s tag entries) else inSlotEntries? slot entries

/-- The node in a slot among items. -/
def inSlotItems? (slot : Nat) : List Node → Option Node
  | [] => none
  | n :: ns => (inSlot? slot n).or (inSlotItems? slot ns)

/-- The node in a slot among entries. -/
def inSlotEntries? (slot : Nat) : List (Node × Node) → Option Node
  | [] => none
  | (k, v) :: es => ((inSlot? slot k).or (inSlot? slot v)).or (inSlotEntries? slot es)
end

end Node

/-- The last slot with a number. -/
def lastSlot? (number : Nat) (numbers : List Nat) : Option Nat :=
  (numbers.zipIdx.reverse.find? fun n => n.1 = number).map Prod.snd

/-- The node that the aliases of a number stand for. -/
def Document.target? (d : Document) (number : Nat) : Option Node := do
  let slot ← lastSlot? number d.numbers
  d.root.inSlot? slot

/-! ## Content -/

/-- The deepest nesting that is read. -/
def maxDepth : Nat := 128

/-- Whether a tag is local. -/
def isLocalTag (tag : Option String) : Bool := tag.any fun t => t.toList.head? = some '!'

/-- The content of a scalar. -/
def scalarContent (tag : Option String) (plain : Bool) (text : String) : Option Scalar :=
  match tag with
  | some t => if isLocalTag tag then none else Scalar.ofTagged? t text
  | none => some (if plain then Scalar.ofPlain text else .str text)

namespace Document

/-- The node, or what it stands for if it is an alias.  The state counts how
many more aliases may be followed. -/
def follow (d : Document) : Node → StateT Nat Option Node
  | .alias number => fun left =>
    if left = 0 then none else (d.target? number).map fun n => (n, left - 1)
  | n => pure n

/-- The text of a key. -/
def keyText (d : Document) (n : Node) : StateT Nat Option String := do
  match ← d.follow n with
  | .scalar _ _ _ text => return text
  | _ => fun _ => none

/-- The content of a node.  `local` tags are refused unless the node is exempt
from it. -/
def content (d : Document) (exempt : Bool) : (depth : Nat) → Node → StateT Nat Option Tree
  | depth, n => do
    match ← d.follow n with
    | .alias _ => fun _ => none
    | .scalar _ tag plain text => fun left =>
      (scalarContent tag plain text).map fun s => (.scalar s, left)
    | .sequence _ tag items =>
      match depth with
      | 0 => fun _ => none
      | depth + 1 =>
        if isLocalTag tag && !exempt then fun _ => none
        else return .sequence (← items.mapM (content d false depth))
    | .mapping _ tag entries =>
      match depth with
      | 0 => fun _ => none
      | depth + 1 =>
        if isLocalTag tag && !exempt then fun _ => none
        else return .mapping (← entries.mapM fun e => do
          let key ← d.keyText e.1
          let value ← content d false depth e.2
          return (key, value))

/-- The content of a document; with `exempt` its root may have a local tag. -/
def tree? (d : Document) (exempt : Bool) : Option Tree :=
  (d.content exempt maxDepth d.root (100 * d.root.parts)).map Prod.fst

end Document

/-! ## Values -/

/-- A scalar as a value. -/
def Scalar.toValue? : Scalar → Option Value
  | .null => some .null
  | .bool b => some (.bool b)
  | .int n => (Number.ofInt? n).map .num
  | .float x => some (match Number.ofFloat? x with
    | some n => .num n
    | none => .null)
  | .str s => some (.str s)

namespace Tree

mutual
/-- The content of a document as a value. -/
def toValue? : Tree → Option Value
  | .scalar s => s.toValue?
  | .sequence items => (toItems? items).map .arr
  | .mapping entries => (toEntries? entries).map fun es => .obj (Keyed.ofEntries es)

/-- Items as values. -/
def toItems? : List Tree → Option (List Value)
  | [] => some []
  | t :: ts => do
    let v ← toValue? t
    let vs ← toItems? ts
    some (v :: vs)

/-- Entries as values. -/
def toEntries? : List (String × Tree) → Option (List (String × Value))
  | [] => some []
  | (k, t) :: es => do
    let v ← toValue? t
    let es ← toEntries? es
    some ((k, v) :: es)
end

end Tree

/-- Reads a text as a value. -/
def read? (text : String) : Option Value := do
  let d ← Document.read? text
  let tree ← d.tree? false
  tree.toValue?

end RuleEngine.Yaml
