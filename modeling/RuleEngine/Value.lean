import RuleEngine.Keyed
import RuleEngine.Number

/-!
# RuleEngine.Value

Document values: what a rule document, an argument, a result and a session
entry are made of.  An object is a list of entries in the order in which its
keys were first set; `Value.Distinct` says that no object inside a value
repeats a key, which every operation keeps.
-/

namespace RuleEngine

/-- A document value. -/
inductive Value where
  | null
  | bool (b : Bool)
  | num (n : Number)
  | str (s : String)
  | arr (items : List Value)
  | obj (entries : List (String × Value))

instance : Inhabited Value := ⟨.null⟩

/-- The entries of an object. -/
abbrev Object := Keyed Value

namespace Value

/-! ## Equality -/

mutual
/-- Equality of values is decidable. -/
def decEq : (v w : Value) → Decidable (v = w)
  | .null, .null => isTrue rfl
  | .bool a, .bool b =>
    if h : a = b then isTrue (h ▸ rfl) else isFalse fun e => h (Value.bool.inj e)
  | .num a, .num b =>
    if h : a = b then isTrue (h ▸ rfl) else isFalse fun e => h (Value.num.inj e)
  | .str a, .str b =>
    if h : a = b then isTrue (h ▸ rfl) else isFalse fun e => h (Value.str.inj e)
  | .arr a, .arr b =>
    match decEqItems a b with
    | isTrue h => isTrue (h ▸ rfl)
    | isFalse h => isFalse fun e => h (Value.arr.inj e)
  | .obj a, .obj b =>
    match decEqEntries a b with
    | isTrue h => isTrue (h ▸ rfl)
    | isFalse h => isFalse fun e => h (Value.obj.inj e)
  | .null, .bool _ | .null, .num _ | .null, .str _ | .null, .arr _ | .null, .obj _
  | .bool _, .null | .bool _, .num _ | .bool _, .str _ | .bool _, .arr _ | .bool _, .obj _
  | .num _, .null | .num _, .bool _ | .num _, .str _ | .num _, .arr _ | .num _, .obj _
  | .str _, .null | .str _, .bool _ | .str _, .num _ | .str _, .arr _ | .str _, .obj _
  | .arr _, .null | .arr _, .bool _ | .arr _, .num _ | .arr _, .str _ | .arr _, .obj _
  | .obj _, .null | .obj _, .bool _ | .obj _, .num _ | .obj _, .str _ | .obj _, .arr _ =>
    isFalse nofun

/-- Equality of lists of values is decidable. -/
def decEqItems : (vs ws : List Value) → Decidable (vs = ws)
  | [], [] => isTrue rfl
  | v :: vs, w :: ws =>
    match decEq v w, decEqItems vs ws with
    | isTrue h, isTrue hs => isTrue (h ▸ hs ▸ rfl)
    | isFalse h, _ => isFalse fun e => h (List.cons.inj e).1
    | _, isFalse hs => isFalse fun e => hs (List.cons.inj e).2
  | [], _ :: _ | _ :: _, [] => isFalse nofun

/-- Equality of entry lists is decidable. -/
def decEqEntries : (es fs : List (String × Value)) → Decidable (es = fs)
  | [], [] => isTrue rfl
  | (k, v) :: es, (l, w) :: fs =>
    if hk : k = l then
      match decEq v w, decEqEntries es fs with
      | isTrue h, isTrue hs => isTrue (hk ▸ h ▸ hs ▸ rfl)
      | isFalse h, _ => isFalse fun e => h (Prod.mk.inj (List.cons.inj e).1).2
      | _, isFalse hs => isFalse fun e => hs (List.cons.inj e).2
    else isFalse fun e => hk (Prod.mk.inj (List.cons.inj e).1).1
  | [], _ :: _ | _ :: _, [] => isFalse nofun
end

instance : DecidableEq Value := decEq

/-! ## Shape -/

mutual
/-- Nesting depth: zero for scalars, one more than the deepest member for
lists and objects. -/
def depth : Value → Nat
  | .arr items => depthItems items + 1
  | .obj entries => depthEntries entries + 1
  | .null | .bool _ | .num _ | .str _ => 0

/-- Depth of the deepest item. -/
def depthItems : List Value → Nat
  | [] => 0
  | v :: vs => max (depth v) (depthItems vs)

/-- Depth of the deepest entry. -/
def depthEntries : List (String × Value) → Nat
  | [] => 0
  | (_, v) :: es => max (depth v) (depthEntries es)
end

mutual
/-- No object inside the value has a key twice. -/
def Distinct : Value → Prop
  | .arr items => DistinctItems items
  | .obj entries => (entries.map Prod.fst).Nodup ∧ DistinctEntries entries
  | .null | .bool _ | .num _ | .str _ => True

/-- `Distinct` of every item. -/
def DistinctItems : List Value → Prop
  | [] => True
  | v :: vs => Distinct v ∧ DistinctItems vs

/-- `Distinct` of every entry's value. -/
def DistinctEntries : List (String × Value) → Prop
  | [] => True
  | (_, v) :: es => Distinct v ∧ DistinctEntries es
end

/-- What rule errors call the type of a value. -/
def typeName : Value → String
  | .null => "null"
  | .bool _ => "boolean"
  | .num _ => "number"
  | .str _ => "string"
  | .arr _ => "list"
  | .obj _ => "mapping"

/-- `null`, `false`, numbers that are zero as doubles, and everything empty are
falsy; all else is truthy. -/
def truthy : Value → Bool
  | .null => false
  | .bool b => b
  | .num n => n.toFloat != 0
  | .str s => !s.isEmpty
  | .arr items => !items.isEmpty
  | .obj entries => !entries.isEmpty

/-! ## Views -/

/-- The text of a string value. -/
def asString? : Value → Option String
  | .str s => some s
  | _ => none

/-- The items of a list value. -/
def asItems? : Value → Option (List Value)
  | .arr items => some items
  | _ => none

/-- A list of strings as a value. -/
def ofStrings (ss : List String) : Value := .arr (ss.map .str)

/-- An optional string as a value, `null` for none. -/
def ofString? : Option String → Value
  | some s => .str s
  | none => .null

end Value

end RuleEngine
