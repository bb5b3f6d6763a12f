import RuleEngine.Export.Format
import RuleEngine.Registry
import RuleEngine.Yaml.Text

/-!
# RuleEngine.Export

Describing the registered callables for people and other programs: for each
its label, its documentation, and for each parameter its default, its type and
the members of an enumeration.  The callables are grouped by kind or listed
flat.  Nothing is called.
-/

namespace RuleEngine.Export

/-! ## Metadata -/

/-- The metadata of a parameter. -/
def ofParam (p : Param) : Value :=
  .obj [("default", p.default.getD .null), ("type", .str p.type.name),
    ("choices", match p.type.choices with
      | some choices => .ofStrings choices
      | none => .null)]

/-- The metadata of a callable. -/
def ofCallable (c : Callable) : Value :=
  .obj [("args", .obj (Keyed.ofEntries (c.function.params.map fun p => (p.name, ofParam p)))),
    ("doc", .ofString? c.function.doc), ("name", .str c.label)]

/-- The metadata of callables under their names. -/
def ofCallables (cs : List Callable) : Value :=
  .obj (Keyed.ofEntries (cs.map fun c => (c.name, ofCallable c)))

/-- The callables of a kind. -/
def group (r : Registry) (kind : JobKind) : List Callable :=
  r.toList.filter fun c => c.kind = kind

/-- The metadata of all callables, in one mapping. -/
def flat (r : Registry) : Value := ofCallables r.toList

/-- The metadata of all callables by their kinds.  Conditions and actions have
a group even when it is empty, other jobs only when there are any. -/
def grouped (r : Registry) : Value :=
  let jobs := group r .job
  .obj ([(JobKind.condition.name, ofCallables (group r .condition)),
    (JobKind.action.name, ofCallables (group r .action))] ++
    if jobs.isEmpty then [] else [(JobKind.job.name, ofCallables jobs)])

/-- The metadata, grouped or flat. -/
def structured (byKind : Bool) (r : Registry) : Value := if byKind then grouped r else flat r

/-! ## Formats -/

/-- What an export gives: a value, or its text. -/
inductive Output where
  | value (v : Value)
  | text (s : String)
deriving DecidableEq

/-- Gives a value in a format. -/
def Format.render (format : Format) (v : Value) : Output :=
  match format with
  | .dict => .value v
  | .json => .text (Json.text v)
  | .yaml => .text (Yaml.text v)

/-- The export of a registry. -/
def ofRegistry (byKind : Bool) (format : Format) (r : Registry) : Output :=
  format.render (structured byKind r)

end RuleEngine.Export
