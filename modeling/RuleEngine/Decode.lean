import RuleEngine.Session
import RuleEngine.Wrong

/-!
# RuleEngine.Decode

Decoding values as types, and the encodings that decoding undoes.

1. An integer type takes integers in its range, and no doubles; the double
   takes every number.
2. An enumeration takes the name of a variant, or a mapping with the name as
   its only key and null under it.
3. A structure takes a mapping, in which unknown keys are ignored and a field
   must not be given under two of its names, or a list of the fields in order.
4. The first wrong thing in document order is reported.
-/

namespace RuleEngine

/-- Reads a value as an `α`. -/
abbrev Decoder (α : Type) := Value → Except Wrong α

namespace Decode

/-- Rejects a value of the wrong type. -/
def reject {α : Type} (wanted : String) (v : Value) : Except Wrong α :=
  .error (.type v.found wanted)

/-! ## Scalars -/

/-- An integer between two bounds. -/
def integer (wanted : String) (low high : Int) : Decoder Int
  | .num (.int n h) =>
    if low ≤ n ∧ n ≤ high then .ok n else .error (.value (.num (.int n h)) wanted)
  | other => reject wanted other

/-- A signed 64-bit integer. -/
def int64 : Decoder Int := integer "i64" (-0x8000000000000000) 0x7fffffffffffffff

/-- An unsigned 64-bit integer. -/
def word64 : Decoder Int := integer "u64" 0 0xffffffffffffffff

/-- A signed 32-bit integer. -/
def int32 : Decoder Int := integer "i32" (-0x80000000) 0x7fffffff

/-- An unsigned byte. -/
def byte : Decoder Int := integer "u8" 0 255

/-- A double; an integer is read as the nearest one. -/
def float : Decoder Float
  | .num n => .ok n.toFloat
  | other => reject "f64" other

/-- A truth value. -/
def boolean : Decoder Bool
  | .bool b => .ok b
  | other => reject "a boolean" other

/-- A text. -/
def text : Decoder String
  | .str s => .ok s
  | other => reject "a string" other

/-! ## Containers -/

/-- A list, its items decoded in order. -/
def list {α : Type} (item : Decoder α) : Decoder (List α)
  | .arr items => items.mapM item
  | other => reject "a sequence" other

/-- The entries of a mapping, decoded in order. -/
def entries {α : Type} (value : Decoder α) : Decoder (List (String × α))
  | .obj es => es.mapM fun e => (value e.2).map fun a => (e.1, a)
  | other => reject "a map" other

/-- A mapping as it is. -/
def object : Decoder Object
  | .obj es => .ok es
  | other => reject "a map" other

/-- Null, or what the decoder reads. -/
def optional {α : Type} (value : Decoder α) : Decoder (Option α)
  | .null => .ok none
  | other => (value other).map some

/-- Rejects a list that goes on after the last field, by its whole length. -/
def tooLong {α : Type} (count : Nat) : Except Wrong α :=
  .error (.length count "fewer elements in array")

/-! ## Enumerations -/

/-- The variant of a name. -/
def variant {α : Type} (known : List (String × α)) (name : String) : Except Wrong α :=
  match Keyed.find? name known with
  | some a => .ok a
  | none => .error (.variant name (Keyed.keys known))

/-- An enumeration with the given names of its variants. -/
def enumeration {α : Type} (known : List (String × α)) : Decoder α
  | .str name => variant known name
  | .obj [(name, content)] => do
    let a ← variant known name
    match content with
    | .null => .ok a
    | other => reject "unit" other
  | .obj _ => .error (.value .map "map with a single key")
  | other => reject "string or map" other

/-- A kind. -/
def jobKind : Decoder JobKind :=
  enumeration [("condition", .condition), ("action", .action), ("generic", .job), ("job", .job)]

/-! ## Jobs -/

/-- The fields of a job that are decoded so far. -/
structure JobFields where
  name : Option String
  kind : Option JobKind
  args : Option Object

/-- One entry of a job's mapping. -/
def jobField (fields : JobFields) : String × Value → Except Wrong JobFields
  | (key, v) =>
    if key = "name" then (text v).map fun name => { fields with name := some name }
    else if key = "kind" ∨ key = "job_type" then
      if fields.kind.isSome then .error (.duplicate "kind")
      else (jobKind v).map fun kind => { fields with kind := some kind }
    else if key = "args" ∨ key = "arguments" then
      if fields.args.isSome then .error (.duplicate "args")
      else (object v).map fun args => { fields with args := some args }
    else .ok fields

/-- A job. -/
def job : Decoder Job
  | .obj es => do
    let fields ← es.foldlM jobField ⟨none, none, none⟩
    match fields.name with
    | some name => .ok ⟨name, fields.kind.getD .job, fields.args.getD []⟩
    | none => .error (.missing "name")
  | .arr [] => .error (.length 0 "struct JobSpec with 3 elements")
  | .arr [name] => do .ok ⟨← text name, .job, []⟩
  | .arr [name, kind] => do .ok ⟨← text name, ← jobKind kind, []⟩
  | .arr (name :: kind :: args :: rest) => do
    let job : Job := ⟨← text name, ← jobKind kind, ← object args⟩
    if rest.isEmpty then .ok job else tooLong (rest.length + 3)
  | other => reject "struct JobSpec" other

/-- One entry of a grouped rule's mapping. -/
def groupedField (rule : GroupedRule) : String × Value → Except Wrong GroupedRule
  | (key, v) =>
    if key = "conditions" then (list job v).map fun jobs => { rule with conditions := jobs }
    else if key = "actions" then (list job v).map fun jobs => { rule with actions := jobs }
    else .ok rule

/-- Conditions and actions held apart, both empty by default. -/
def groupedRule : Decoder GroupedRule
  | .obj es => es.foldlM groupedField ⟨[], []⟩
  | .arr [] => .ok ⟨[], []⟩
  | .arr [conditions] => do .ok ⟨← list job conditions, []⟩
  | .arr (conditions :: actions :: rest) => do
    let rule : GroupedRule := ⟨← list job conditions, ← list job actions⟩
    if rest.isEmpty then .ok rule else tooLong (rest.length + 2)
  | other => reject "struct RuleSpec" other

/-- A session. -/
def session : Decoder Session := fun v => (object v).map Session.mk

end Decode

/-! ## Encodings -/

/-- A job as a value; empty arguments are left out. -/
def Job.toValue (job : Job) : Value :=
  let fields := [("name", .str job.name), ("kind", .str job.kind.name)]
  .obj (if job.args.isEmpty then fields else fields ++ [("args", .obj job.args)])

/-- A grouped rule as a value. -/
def GroupedRule.toValue (rule : GroupedRule) : Value :=
  .obj [("conditions", .arr (rule.conditions.map Job.toValue)),
    ("actions", .arr (rule.actions.map Job.toValue))]

end RuleEngine
