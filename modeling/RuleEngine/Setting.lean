import RuleEngine.Yaml.Document

/-!
# RuleEngine.Setting

What configuration files and environment variables hold: a tree of settings,
in which later sources override earlier ones table by table.
-/

namespace RuleEngine

/-- A setting. -/
inductive Setting where
  | null
  | bool (b : Bool)
  | text (s : String)
  /-- A number, a date or a list: no field of a configuration takes one. -/
  | other
  | table (entries : List (String × Setting))

/-- Settings under their names. -/
abbrev Settings := Keyed Setting

namespace Setting

mutual
/-- A setting overridden by a later one: tables are merged, everything else is
replaced. -/
def override : Setting → Setting → Setting
  | old, .table new =>
    match old with
    | .table entries => .table (overrideAll entries new)
    | _ => .table new
  | _, new => new

/-- Settings overridden by later ones, one after the other. -/
def overrideAll (old : List (String × Setting)) :
    List (String × Setting) → List (String × Setting)
  | [] => old
  | (name, new) :: rest =>
    let merged := match Keyed.find? name old with
      | some before => override before new
      | none => new
    overrideAll (Keyed.set name merged old) rest
end

/-- A setting as the value that a field is decoded from. -/
def toValue : Setting → Value
  | .null => .null
  | .bool b => .bool b
  | .text s => .str s
  | .other => .arr []
  | .table _ => .obj []

mutual
/-- A document value as a setting. -/
def ofValue : Value → Setting
  | .null => .null
  | .bool b => .bool b
  | .num _ => .other
  | .str s => .text s
  | .arr _ => .other
  | .obj entries => .table (ofEntries entries)

/-- Entries as settings. -/
def ofEntries : List (String × Value) → List (String × Setting)
  | [] => []
  | (k, v) :: rest => (k, ofValue v) :: ofEntries rest
end

/-- A scalar of a YAML document as a setting. -/
def ofScalar : Yaml.Scalar → Setting
  | .null => .null
  | .bool b => .bool b
  | .int _ => .other
  | .float _ => .other
  | .str s => .text s

mutual
/-- A YAML document as a setting. -/
def ofTree : Yaml.Tree → Setting
  | .scalar s => ofScalar s
  | .sequence _ => .other
  | .mapping entries => .table (Keyed.ofEntries (ofTrees entries))

/-- Entries of a YAML mapping as settings. -/
def ofTrees : List (String × Yaml.Tree) → List (String × Setting)
  | [] => []
  | (k, t) :: rest => (k, ofTree t) :: ofTrees rest
end

end Setting

end RuleEngine
