import RuleEngine.Setting

/-!
# RuleEngine.Toml.Table

The tables of a TOML document while it is read.  A table may be opened once by
a header, and not after keys with points went into it; a key may be set once;
the value of a key is closed to both.
-/

namespace RuleEngine.Toml

/-- What stands under a key. -/
inductive Item where
  /-- The value of a key. -/
  | value (s : Setting)
  /-- A table.  It is implicit until a header opens it, and dotted when it was
  made by a key with points. -/
  | table (implicit dotted : Bool) (entries : List (String × Item))
  /-- A list of tables; the last one is open. -/
  | tables (items : List (List (String × Item)))

/-- A table. -/
structure Table where
  implicit : Bool
  dotted : Bool
  entries : Keyed Item

namespace Table

/-- An open table without entries. -/
def empty : Table := ⟨false, false, []⟩

/-- The table as what stands under a key. -/
def toItem (t : Table) : Item := .table t.implicit t.dotted t.entries

/-- Changes the table at the end of a path; tables that are missing are made.
A path of a key with points does not go through a table that a header
opened. -/
def change (dotted : Bool) (f : Table → Option Table) : List String → Table → Option Table
  | [], t => f t
  | k :: ks, t => do
    let item ← match Keyed.find? k t.entries with
      | none => (change dotted f ks ⟨true, dotted, []⟩).map toItem
      | some (.table implicit isDotted entries) =>
        if dotted && !implicit then none
        else (change dotted f ks ⟨implicit, isDotted, entries⟩).map toItem
      | some (.tables items) => do
        let last ← items.getLast?
        let t ← change dotted f ks ⟨false, false, last⟩
        some (.tables (items.dropLast ++ [t.entries]))
      | some (.value _) => none
    some { t with entries := Keyed.set k item t.entries }

/-- Opens the table of a header, by the last part of its path. -/
def openTable (k : String) (t : Table) : Option Table := do
  let item ← match Keyed.find? k t.entries with
    | none => some empty.toItem
    | some (.table true false entries) => some (.table false false entries)
    | some _ => none
  some { t with entries := Keyed.set k item t.entries }

/-- Opens another table of a list, by the last part of its path. -/
def openNext (k : String) (t : Table) : Option Table := do
  let item ← match Keyed.find? k t.entries with
    | none => some (.tables [[]])
    | some (.tables items) => some (.tables (items ++ [[]]))
    | some _ => none
  some { t with entries := Keyed.set k item t.entries }

/-- Sets the last part of a key; `pointed` says that the key has more parts. -/
def setLast (pointed : Bool) (k : String) (s : Setting) (t : Table) : Option Table :=
  if t.dotted ≠ pointed || Keyed.has k t.entries then none
  else some { t with entries := t.entries ++ [(k, .value s)] }

/-- Sets a key in a table. -/
def setKey (key : List String) (s : Setting) (t : Table) : Option Table := do
  let last ← key.getLast?
  change true (setLast (1 < key.length) last s) key.dropLast t

end Table

namespace Item

mutual
/-- What stands under a key, as a setting. -/
def toSetting : Item → Setting
  | .value s => s
  | .table _ _ entries => .table (toSettings entries)
  | .tables _ => .other

/-- Entries as settings. -/
def toSettings : List (String × Item) → List (String × Setting)
  | [] => []
  | (k, item) :: rest => (k, toSetting item) :: toSettings rest
end

end Item

end RuleEngine.Toml
