import RuleEngine.Arguments

/-!
# RuleEngine.Callable

Functions that jobs call.  A function declares its parameters; binding a job
fills in the defaults of the parameters that the job leaves out, and rejects
the job when an argument is undeclared or a parameter without a default is
left out.  A function that declares nothing takes every argument.
-/

namespace RuleEngine

/-! ## Parameters -/

/-- The declared type of a parameter. -/
inductive ParamType where
  | integer
  | number
  | boolean
  | string
  | array
  | object
  | any
  /-- A type of the caller, known by its name. -/
  | named (name : String)
  /-- An enumeration with its members in order. -/
  | enumeration (name : String) (choices : List String)
deriving DecidableEq

/-- The name of a type. -/
def ParamType.name : ParamType → String
  | .integer => "integer"
  | .number => "number"
  | .boolean => "boolean"
  | .string => "string"
  | .array => "array"
  | .object => "object"
  | .any => "any"
  | .named name => name
  | .enumeration name _ => name

/-- The members of an enumeration. -/
def ParamType.choices : ParamType → Option (List String)
  | .enumeration _ choices => some choices
  | _ => none

/-- A declared parameter; one without a default is required. -/
structure Param where
  name : String
  type : ParamType
  default : Option Value
deriving DecidableEq

/-- Whether the parameter has no default. -/
def Param.isRequired (p : Param) : Bool := p.default.isNone

/-! ## Functions -/

/-- What a handler leaves behind: its result, the session, and the notices
given on the way. -/
structure Reply where
  result : Except Failure Value
  session : Session
  notices : List Notice

/-- What a function does when it is called. -/
abbrev Handler := Session → Arguments → Reply

/-- A function with its declared name, parameters and documentation. -/
structure Function where
  name : String
  params : List Param
  doc : Option String
  handler : Handler

namespace Function

/-- Whether the function declares a parameter of the name. -/
def declares (f : Function) (name : String) : Bool := f.params.any fun p => p.name = name

/-- The first argument of a job that the function does not declare. -/
def firstUndeclared (f : Function) (args : Object) : Option String :=
  if f.params.isEmpty then none else (Keyed.keys args).find? fun name => !f.declares name

/-- The arguments completed by the defaults of the parameters, in the order of
declaration. -/
def complete (job : String) (values : Object) : List Param → Except Error Object
  | [] => .ok values
  | p :: params =>
    if Keyed.has p.name values then complete job values params
    else match p.default with
      | some default => complete job (Keyed.set p.name default values) params
      | none => .error (.missingArgument job p.name)

/-- Binds the arguments of a job to the parameters. -/
def bind (f : Function) (job : Job) : Except Error Arguments :=
  match f.firstUndeclared job.args with
  | some name => .error (.invalidArgument job.name name .unexpected)
  | none => (complete job.name job.args f.params).map fun values => ⟨job.name, values⟩

/-- Calls the handler. -/
def call (f : Function) (session : Session) (arguments : Arguments) : Reply :=
  f.handler session arguments

end Function

/-- A function registered under a name, with a label for people. -/
structure Callable where
  name : String
  label : String
  kind : JobKind
  function : Function

end RuleEngine
