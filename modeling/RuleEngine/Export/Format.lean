import RuleEngine.Notice
import RuleEngine.Text.Blank
import RuleEngine.Text.Lowercase

/-!
# RuleEngine.Export.Format

The formats of an export.  A format is chosen by a name in any case, with
blanks around it; a name of no format stands for the structured one, which is
told.
-/

namespace RuleEngine.Export

/-- The format of an export. -/
inductive Format where
  /-- A structured value. -/
  | dict
  /-- JSON text. -/
  | json
  /-- YAML text. -/
  | yaml
deriving DecidableEq, Inhabited

namespace Format

/-- The name of a format. -/
def name : Format → String
  | .dict => "dict"
  | .json => "json"
  | .yaml => "yaml"

/-- The format a name stands for. -/
def ofName (text : String) : Noted Format :=
  let name := Text.lowercase (Text.trim text)
  if name = "json" then .plain .json
  else if name = "yaml" ∨ name = "yml" then .plain .yaml
  else if name = "dict" then .plain .dict
  else ⟨.dict, [.unknownFormat name]⟩

end Format

end RuleEngine.Export
