import RuleEngine.Job
import RuleEngine.Json.Text

/-!
# RuleEngine.Notice

What the engine tells about its work while it works.
-/

namespace RuleEngine

/-- How urgent a notice is. -/
inductive Level where
  | debug
  | warn
deriving DecidableEq

/-- The name of a level. -/
def Level.name : Level → String
  | .debug => "DEBUG"
  | .warn => "WARN"

/-- Something worth telling. -/
inductive Notice where
  /-- A run starts. -/
  | runStart (jobs : Nat) (shape : Shape)
  /-- A job returned. -/
  | jobReturned (name : String) (kind : JobKind) (result : Value)
  /-- A falsy result stops the run. -/
  | shortCircuit (name : String) (kind : JobKind)
  /-- A run ends. -/
  | runEnd (completed : Bool)
  /-- The session's results were no list and are replaced. -/
  | resultsReset (old : Value)
  /-- A callable takes the place of another one. -/
  | reRegistered (name : String) (kind : JobKind)
  /-- Callables are imported from an explicit list. -/
  | importingListed (count : Nat)
  /-- Callables are imported from all functions of a source. -/
  | importingScanned (count : Nat)
  /-- An export format that does not exist, in lowercase. -/
  | unknownFormat (name : String)
  /-- A rule text is neither JSON nor YAML. -/
  | textRejected
  /-- The directory of a run log cannot be made. -/
  | logDirectory
  /-- The file of a run log cannot be opened. -/
  | logOpen
deriving DecidableEq

namespace Notice

/-- How urgent the notice is. -/
def level : Notice → Level
  | .resultsReset _ | .logDirectory | .logOpen => .warn
  | _ => .debug

/-- The words of the notice, durations and causes left out. -/
def message : Notice → String
  | .runStart jobs shape => "Run start: " ++ toString jobs ++ " jobs (" ++ shape.name ++ ")"
  | .jobReturned name kind result =>
    "Job " ++ name ++ " (" ++ kind.name ++ ") -> " ++ Json.text result
  | .shortCircuit name kind => "Short-circuit at " ++ name ++ " (" ++ kind.name ++ ")"
  | .runEnd true => "Run end: completed=true"
  | .runEnd false => "Run end: completed=false"
  | .resultsReset old => "Session results not a list (" ++ Json.text old ++ "), resetting"
  | .reRegistered name kind => "Job " ++ name ++ " re-registered as " ++ kind.name
  | .importingListed count => "Importing " ++ toString count ++ " listed jobs"
  | .importingScanned count => "Importing " ++ toString count ++ " scanned jobs"
  | .unknownFormat name => "Unknown export format '" ++ name ++ "', using dict"
  | .textRejected => "Rule text rejected"
  | .logDirectory => "Log dir err"
  | .logOpen => "Log open err"

end Notice

/-- A result together with the notices given on the way to it. -/
structure Noted (α : Type) where
  value : α
  notices : List Notice

/-- A result without notices. -/
def Noted.plain {α : Type} (value : α) : Noted α := ⟨value, []⟩

/-- Another result with the same notices. -/
def Noted.map {α β : Type} (f : α → β) (n : Noted α) : Noted β := ⟨f n.value, n.notices⟩

end RuleEngine
