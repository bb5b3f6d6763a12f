import RuleEngine.Callable

/-!
# RuleEngine.Registry

The callables that jobs can name, in the order in which their names were first
registered.  Registering a name again replaces its callable in place.
-/

namespace RuleEngine

/-- A callable to be registered: its label, if it has one of its own, its kind
and its function. -/
structure Descriptor where
  label : Option String
  kind : JobKind
  function : Function

/-- Something that callables are imported from: its functions, and the list of
those to be registered, if it has one. -/
structure Source where
  functions : List Function
  listed : Option (List (String × Descriptor))

/-- The registered callables under their names. -/
structure Registry where
  callables : Keyed Callable

namespace Registry

/-- The registry without callables. -/
def empty : Registry := ⟨[]⟩

/-! ## Queries -/

/-- The callable of a name. -/
def get? (r : Registry) (name : String) : Option Callable := Keyed.find? name r.callables

/-- Whether a name is registered. -/
def has (r : Registry) (name : String) : Bool := Keyed.has name r.callables

/-- The callable of a name, or the error that there is none. -/
def resolve (r : Registry) (name : String) : Except Error Callable :=
  match r.get? name with
  | some c => .ok c
  | none => .error (.jobNotFound name)

/-- The registered names, in order. -/
def names (r : Registry) : List String := Keyed.keys r.callables

/-- The number of registered names. -/
def size (r : Registry) : Nat := r.callables.length

/-- The callables, in order. -/
def toList (r : Registry) : List Callable := Keyed.values r.callables

/-! ## Registration -/

/-- Registers a function under a name; the label defaults to the name. -/
def insert (r : Registry) (name : String) (d : Descriptor) : Noted Registry where
  value := ⟨Keyed.set name ⟨name, d.label.getD name, d.kind, d.function⟩ r.callables⟩
  notices := if r.has name then [.reRegistered name d.kind] else []

/-- Registers a function under its declared name. -/
def register (r : Registry) (d : Descriptor) : Noted Registry := r.insert d.function.name d

/-- Registers several functions, one after the other. -/
def insertAll (r : Registry) : List (String × Descriptor) → Noted Registry
  | [] => .plain r
  | (name, d) :: rest =>
    let first := r.insert name d
    let others := insertAll first.value rest
    ⟨others.value, first.notices ++ others.notices⟩

/-- A function of a source without a list: a job under its declared name. -/
def scanned (f : Function) : String × Descriptor := (f.name, ⟨none, .job, f⟩)

/-- The list a source is imported by: the overrides if there are any, else its
own list, if it has one. -/
def importList (source : Source) (overrides : Option (List (String × Descriptor))) :
    Option (List (String × Descriptor)) :=
  overrides.or source.listed

/-- Imports a source: by its list, or else all its functions. -/
def importFrom (r : Registry) (source : Source)
    (overrides : Option (List (String × Descriptor))) : Noted Registry :=
  match importList source overrides with
  | some list =>
    let done := r.insertAll list
    ⟨done.value, .importingListed list.length :: done.notices⟩
  | none =>
    let done := r.insertAll (source.functions.map scanned)
    ⟨done.value, .importingScanned source.functions.length :: done.notices⟩

end Registry

end RuleEngine
