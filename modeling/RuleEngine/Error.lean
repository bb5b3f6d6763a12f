import RuleEngine.Job
import RuleEngine.Wrong

/-!
# RuleEngine.Error

The errors of the engine, by cause, and their texts.
-/

namespace RuleEngine

/-- A fault of a rule document that can be read but is no rule. -/
inductive Fault where
  /-- The document is neither a list nor a mapping. -/
  | notARule (typeName : String)
  /-- A mapping without either of its two keys. -/
  | noLists
  /-- The value at one of the two keys is no list. -/
  | notAList (key typeName : String)
  /-- An item of a list is no mapping. -/
  | notAJob (index : Nat) (typeName : String)
  /-- The name of a job is no string. -/
  | badName (index : Nat) (typeName : String)
  /-- A job has no name. -/
  | noName (index : Nat)
  /-- The arguments of a job are no mapping. -/
  | badArgs (job typeName : String)
  /-- The kind of a job is no string. -/
  | badKind (job typeName : String)
  /-- A kind that does not exist, in lowercase. -/
  | unknownKind (name : String)
  /-- A fault found by another reader of rules. -/
  | other (message : String)
deriving DecidableEq

/-- The text of a fault. -/
def Fault.message : Fault → String
  | .notARule t => "expected a job list or a conditions/actions mapping, got " ++ t
  | .noLists => "mapping needs a 'conditions' or 'actions' key"
  | .notAList key t => "'" ++ key ++ "' must be a list, got " ++ t
  | .notAJob i t => "job #" ++ toString i ++ " must be a mapping, got " ++ t
  | .badName i t => "job #" ++ toString i ++ " 'name' must be a string, got " ++ t
  | .noName i => "job #" ++ toString i ++ " missing 'name'"
  | .badArgs job t => "job '" ++ job ++ "' args must be a mapping, got " ++ t
  | .badKind job t => "job '" ++ job ++ "' kind must be a string, got " ++ t
  | .unknownKind name => "unknown job kind '" ++ name ++ "'. Expected condition, action or job"
  | .other message => message

/-- Why an argument is rejected. -/
inductive Reason where
  /-- The callable declares parameters, and this is none of them. -/
  | unexpected
  /-- The argument does not decode as the type that is asked for. -/
  | wrong (w : Wrong)
  /-- Any other reason. -/
  | other (message : String)
deriving DecidableEq

/-- The text of a reason. -/
def Reason.message : Reason → String
  | .unexpected => "unexpected argument"
  | .wrong w => w.message
  | .other message => message

mutual
/-- An error of the engine. -/
inductive Error where
  /-- A rule text that is neither JSON nor YAML. -/
  | parse (message : String)
  /-- A rule input of the wrong structure. -/
  | invalidInput (fault : Fault)
  /-- No callable is registered under the name. -/
  | jobNotFound (name : String)
  /-- An argument is rejected. -/
  | invalidArgument (job arg : String) (reason : Reason)
  /-- An argument is absent. -/
  | missingArgument (job arg : String)
  /-- A handler failed. -/
  | callable (failure : Failure)
  /-- A value cannot be written. -/
  | serialization (message : String)
  /-- A configuration cannot be loaded. -/
  | config (message : String)
deriving DecidableEq

/-- What a handler fails with: a text of its own, or an error of the engine,
such as that of an accessor it called. -/
inductive Failure where
  | text (text : String)
  | error (e : Error)
deriving DecidableEq
end

mutual
/-- The text of an error.  An error that a handler failed with has the text
of the failure. -/
def Error.message : Error → String
  | .parse m => "rule input is not valid JSON/YAML: " ++ m
  | .invalidInput fault =>
    "rule input must be a list, mapping, or parseable string: " ++ fault.message
  | .jobNotFound name => "Job not found: " ++ name
  | .invalidArgument job arg reason =>
    "Invalid argument '" ++ arg ++ "' for job '" ++ job ++ "': " ++ reason.message
  | .missingArgument job arg => "Missing argument '" ++ arg ++ "' for job '" ++ job ++ "'"
  | .callable failure => failure.message
  | .serialization m => "Serialization error: " ++ m
  | .config m => "Configuration error: " ++ m

/-- The text of a failure. -/
def Failure.message : Failure → String
  | .text text => text
  | .error e => e.message
end

end RuleEngine
