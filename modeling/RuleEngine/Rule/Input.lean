import RuleEngine.Json.Reader
import RuleEngine.Notice
import RuleEngine.Rule.Document
import RuleEngine.Yaml.Document

/-!
# RuleEngine.Rule.Input

Reading a rule from any input.  A text is read as JSON, and as YAML when it is
no JSON; a text that is neither is told and rejected, with what the reader of
YAML says of it.  The wording of that is left open.
-/

namespace RuleEngine

/-- A reader of rules. -/
abbrev RuleReader := RuleInput → Noted (Except Error Rule)

/-- What the reader of YAML says of a text that is no document. -/
abbrev Diagnosis := String → String

/-- The same is said of every text. -/
def Diagnosis.terse : Diagnosis := fun _ => "no document"

namespace Rule

variable (diagnose : Diagnosis)

/-- The document of a text. -/
def decodeText (text : String) : Except Error Value :=
  match Json.read? text with
  | some v => .ok v
  | none =>
    match Yaml.read? text with
    | some v => .ok v
    | none => .error (.parse (diagnose text))

/-- The rule of a document, or the error that it is none. -/
def ofDocument (v : Value) : Except Error Rule := (ofValue v).mapError .invalidInput

/-- The rule of an input. -/
def read : RuleReader
  | .text text =>
    match decodeText diagnose text with
    | .ok v => .plain (ofDocument v)
    | .error e => ⟨.error e, [.textRejected]⟩
  | .value v => .plain (ofDocument v)
  | .jobs jobs => .plain (.ok (ofJobs jobs))
  | .grouped rule => .plain (.ok (ofGrouped rule))

end Rule

end RuleEngine
