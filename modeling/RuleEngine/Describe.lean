import RuleEngine.Callable
import RuleEngine.Signals
import RuleEngine.Text.Quoted

/-!
# RuleEngine.Describe

Descriptions of values of the engine for people who look into it: names of
constructors and fields with their contents, texts in visible quotes.
-/

namespace RuleEngine.Describe

/-! ## Building blocks -/

/-- Members between brackets. -/
def list (members : List String) : String := "[" ++ ", ".intercalate members ++ "]"

/-- A name with fields. -/
def fields (name : String) (fs : List (String × String)) (rest : List String) : String :=
  let written := fs.map (fun f => f.1 ++ ": " ++ f.2) ++ rest
  name ++ " \x7b " ++ ", ".intercalate written ++ " \x7d"

/-- A name with one content. -/
def wrap (name content : String) : String := name ++ "(" ++ content ++ ")"

/-- Something that may be absent. -/
def option {α : Type} (describe : α → String) : Option α → String
  | some a => wrap "Some" (describe a)
  | none => "None"

/-! ## Values -/

mutual
/-- A document value. -/
def value : Value → String
  | .null => "Null"
  | .bool true => "Bool(true)"
  | .bool false => "Bool(false)"
  | .num n => wrap "Number" (String.ofList (n.text .json))
  | .str s => wrap "String" (Text.quoted s)
  | .arr items => "Array " ++ list (values items)
  | .obj es => "Object \x7b" ++ ", ".intercalate (entries es) ++ "\x7d"

/-- Items of a list. -/
def values : List Value → List String
  | [] => []
  | v :: vs => value v :: values vs

/-- Entries of an object. -/
def entries : List (String × Value) → List String
  | [] => []
  | (k, v) :: es => (Text.quoted k ++ ": " ++ value v) :: entries es
end

/-! ## The engine -/

/-- A kind. -/
def jobKind : JobKind → String
  | .condition => "Condition"
  | .action => "Action"
  | .job => "Job"

/-- The type of a parameter. -/
def paramType : ParamType → String
  | .integer => "Integer"
  | .number => "Number"
  | .boolean => "Boolean"
  | .string => "String"
  | .array => "Array"
  | .object => "Object"
  | .any => "Any"
  | .named name => wrap "Named" (Text.quoted name)
  | .enumeration name choices =>
    fields "Enum" [("name", Text.quoted name), ("choices", list (choices.map Text.quoted))] []

/-- A parameter. -/
def param (p : Param) : String :=
  fields "ParamSpec" [("name", Text.quoted p.name), ("param_type", paramType p.type),
    ("default", option value p.default)] []

/-- A function; its handler is left out. -/
def function (f : Function) : String :=
  fields "JobFunction" [("name", Text.quoted f.name), ("params", list (f.params.map param)),
    ("doc", option Text.quoted f.doc)] [".."]

/-- One signal. -/
def signal {ρ : Type} (s : Signal ρ) : String :=
  fields "Signal" [("name", Text.quoted s.name), ("receivers", toString s.size)] []

/-- All signals. -/
def signals {ρ : Type} (s : Signals ρ) : String :=
  fields "Signals" [("signals", list (s.list.map signal))] []

end RuleEngine.Describe
