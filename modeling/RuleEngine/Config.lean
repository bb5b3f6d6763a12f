import RuleEngine.Decode
import RuleEngine.Export.Format

/-!
# RuleEngine.Config

The configuration of an engine: its name, the format and grouping of its
exports, and where its run log is kept.  Every field has a default.
-/

namespace RuleEngine

/-- A configuration. -/
structure Config where
  /-- The name of the engine, used for its run log. -/
  name : String
  /-- The format of exports that ask for none. -/
  exportFormat : Export.Format
  /-- Whether exports are grouped by kind. -/
  groupByKind : Bool
  /-- The root of the run log; there is none without it. -/
  logDir : Option String
deriving DecidableEq

namespace Config

/-- The configuration in which every field has its default. -/
def default : Config := ⟨"default", .dict, true, none⟩

/-! ## Values -/

/-- The configuration as a value; an absent log directory is left out. -/
def toValue (c : Config) : Value :=
  let fields := [("name", .str c.name), ("export_format", .str c.exportFormat.name),
    ("group_exports_by_kind", .bool c.groupByKind)]
  .obj (match c.logDir with
    | some dir => fields ++ [("log_dir", .str dir)]
    | none => fields)

/-- The fields of a configuration, in order. -/
inductive Field where
  | name
  | exportFormat
  | groupByKind
  | logDir
deriving DecidableEq

/-- All fields. -/
def fields : List Field := [.name, .exportFormat, .groupByKind, .logDir]

/-- The key of a field. -/
def Field.key : Field → String
  | .name => "name"
  | .exportFormat => "export_format"
  | .groupByKind => "group_exports_by_kind"
  | .logDir => "log_dir"

/-- The field of a key. -/
def Field.ofKey? (key : String) : Option Field := fields.find? fun f => f.key = key

/-- A path, or null for none. -/
def decodePath : Decoder (Option String) :=
  Decode.optional fun
    | .str s => .ok s
    | other => Decode.reject "path string" other

/-- The configuration with one field decoded from a value.  A format that does
not exist is told. -/
def setField (c : Config) (field : Field) (v : Value) : Except Wrong (Noted Config) :=
  match field with
  | .name => (Decode.text v).map fun s => .plain { c with name := s }
  | .exportFormat =>
    (Decode.text v).map fun s => (Export.Format.ofName s).map fun f => { c with exportFormat := f }
  | .groupByKind => (Decode.boolean v).map fun b => .plain { c with groupByKind := b }
  | .logDir => (decodePath v).map fun dir => .plain { c with logDir := dir }

/-- Sets fields one after the other until one is wrong; what was told before
that stays told. -/
def setFields (c : Config) : List (Field × Value) → Noted (Except Wrong Config)
  | [] => .plain (.ok c)
  | (field, v) :: rest =>
    match c.setField field v with
    | .error w => .plain (.error w)
    | .ok first =>
      let others := setFields first.value rest
      ⟨others.value, first.notices ++ others.notices⟩

/-- The entries whose keys are fields. -/
def knownEntries (entries : Object) : List (Field × Value) :=
  entries.filterMap fun e => (Field.ofKey? e.1).map fun f => (f, e.2)

/-- Decodes a configuration from a mapping, or from a list of its fields in
order; absent fields have their defaults. -/
def decode : Value → Noted (Except Wrong Config)
  | .obj entries => default.setFields (knownEntries entries)
  | .arr items =>
    let done := default.setFields (fields.zip items)
    if items.length ≤ fields.length then done
    else ⟨done.value.bind fun _ => Decode.tooLong items.length, done.notices⟩
  | other => .plain (Decode.reject "struct EngineConfig" other)

end Config

end RuleEngine
