import RuleEngine.Decode
import RuleEngine.Error

/-!
# RuleEngine.Arguments

The arguments a handler is called with, and their typed accessors.  An
accessor that cannot give what is asked for says which argument of which job is
at fault.
-/

namespace RuleEngine

/-- The arguments of a call, and the job they belong to. -/
structure Arguments where
  job : String
  values : Object
deriving DecidableEq

namespace Arguments

/-- An argument as it is. -/
def raw (a : Arguments) (name : String) : Option Value := Keyed.find? name a.values

/-- Decodes the value of an argument. -/
def decode {α : Type} (a : Arguments) (decoder : Decoder α) (name : String) (v : Value) :
    Except Error α :=
  match decoder v with
  | .ok x => .ok x
  | .error w => .error (.invalidArgument a.job name (.wrong w))

/-- An argument that must be present. -/
def get {α : Type} (a : Arguments) (decoder : Decoder α) (name : String) : Except Error α :=
  match a.raw name with
  | some v => a.decode decoder name v
  | none => .error (.missingArgument a.job name)

/-- An argument that may be absent; null counts as absent. -/
def opt {α : Type} (a : Arguments) (decoder : Decoder α) (name : String) :
    Except Error (Option α) :=
  match a.raw name with
  | none | some .null => .ok none
  | some v => (a.decode decoder name v).map some

/-- An argument with a fallback for an absent one. -/
def getOr {α : Type} (a : Arguments) (decoder : Decoder α) (name : String) (fallback : α) :
    Except Error α :=
  (a.opt decoder name).map fun x => x.getD fallback

end Arguments

end RuleEngine
