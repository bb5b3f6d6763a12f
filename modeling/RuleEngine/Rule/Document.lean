import RuleEngine.Error
import RuleEngine.Text.Lowercase

/-!
# RuleEngine.Rule.Document

Reading a rule from a decoded document.

1. A list is a flat rule; its items are jobs.
2. A mapping with the key `conditions` or `actions` is a grouped rule; each of
   the two holds a list of jobs, none when absent or null, and implies the kind
   of its jobs.
3. A job is a mapping with a `name`, arguments under `args` or else
   `arguments`, and a kind under `kind` or else `job_type`.

The first fault is reported, in the order in which the reader looks: both
lists, then the jobs of the conditions, then those of the actions, and within a
job its name, its arguments and its kind.
-/

namespace RuleEngine

/-- The kind a text names, in any case; `generic` is another name of `job`. -/
def JobKind.ofText (text : String) : Except Fault JobKind :=
  let name := Text.lowercase text
  if name = "condition" then .ok .condition
  else if name = "action" then .ok .action
  else if name = "job" ∨ name = "generic" then .ok .job
  else .error (.unknownKind name)

namespace Rule

/-! ## Jobs -/

/-- Takes the first of two keys that is present out of a mapping. -/
def takeEither (first second : String) (entries : Object) : Option Value × Object :=
  match Keyed.take first entries with
  | (some v, rest) => (some v, rest)
  | (none, rest) => Keyed.take second rest

/-- The name of the job at a position, from its field. -/
def readName (index : Nat) : Option Value → Except Fault String
  | some (.str name) => .ok name
  | some other => .error (.badName index other.typeName)
  | none => .error (.noName index)

/-- The arguments of a job, from their field: none when absent or null. -/
def readArgs (name : String) : Option Value → Except Fault Object
  | none | some .null => .ok []
  | some (.obj args) => .ok args
  | some other => .error (.badArgs name other.typeName)

/-- The declared kind of a job, from its field: `job` when absent or null. -/
def readKind (name : String) : Option Value → Except Fault JobKind
  | none | some .null => .ok .job
  | some (.str kind) => JobKind.ofText kind
  | some other => .error (.badKind name other.typeName)

/-- A job of a document, whose fields are taken out one after the other.  A kind
that the list implies wins over the declared one, which must be a kind all the
same. -/
def readJob (implied : Option JobKind) (index : Nat) : Value → Except Fault Job
  | .obj entries => do
    let (field, entries) := Keyed.take "name" entries
    let name ← readName index field
    let (field, entries) := takeEither "args" "arguments" entries
    let args ← readArgs name field
    let (field, _) := takeEither "kind" "job_type" entries
    let kind ← readKind name field
    .ok ⟨name, implied.getD kind, args⟩
  | other => .error (.notAJob index other.typeName)

/-- The jobs of a list, whose first item has the given position. -/
def readJobs (implied : Option JobKind) (index : Nat) : List Value → Except Fault (List Job)
  | [] => .ok []
  | item :: items => do
    let job ← readJob implied index item
    let jobs ← readJobs implied (index + 1) items
    .ok (job :: jobs)

/-! ## Documents -/

/-- The list of a key, from its field: empty when absent or null. -/
def readList (key : String) : Option Value → Except Fault (List Value)
  | none | some .null => .ok []
  | some (.arr items) => .ok items
  | some other => .error (.notAList key other.typeName)

/-- The rule of a mapping, whose two lists are taken out one after the other. -/
def readGrouped (entries : Object) : Except Fault Rule := do
  if !Keyed.has "conditions" entries && !Keyed.has "actions" entries then .error .noLists
  let (field, entries) := Keyed.take "conditions" entries
  let conditions ← readList "conditions" field
  let (field, _) := Keyed.take "actions" entries
  let actions ← readList "actions" field
  let conditions ← readJobs (some .condition) 0 conditions
  let actions ← readJobs (some .action) 0 actions
  .ok ⟨conditions ++ actions, .grouped⟩

/-- The rule of a document. -/
def ofValue : Value → Except Fault Rule
  | .arr items => (readJobs none 0 items).map Rule.ofJobs
  | .obj entries => readGrouped entries
  | other => .error (.notARule other.typeName)

end Rule

end RuleEngine
