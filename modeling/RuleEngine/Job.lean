import RuleEngine.Value

/-!
# RuleEngine.Job

Jobs and rules.  A job names a callable and carries the arguments of the call;
its kind says whether it gates what follows.  A rule is a list of jobs with
the shape of the input it was read from: a flat list, or conditions and actions
held apart.
-/

namespace RuleEngine

/-- The kind of a job or of a registered callable. -/
inductive JobKind where
  /-- Gates the actions that follow it. -/
  | condition
  /-- Called for its effect once all conditions hold. -/
  | action
  /-- Any other unit of work. -/
  | job
deriving DecidableEq, Inhabited

/-- The name of a kind. -/
def JobKind.name : JobKind → String
  | .condition => "condition"
  | .action => "action"
  | .job => "job"

/-- One step of a rule. -/
structure Job where
  name : String
  kind : JobKind
  args : Object
deriving DecidableEq

/-- The job under another kind. -/
def Job.withKind (job : Job) (kind : JobKind) : Job := { job with kind := kind }

/-- Conditions and actions held apart. -/
structure GroupedRule where
  conditions : List Job
  actions : List Job
deriving DecidableEq

/-- The shape of the input a rule was read from. -/
inductive Shape where
  /-- A single list of jobs. -/
  | flat
  /-- Conditions and actions in lists of their own. -/
  | grouped
deriving DecidableEq

/-- The name of a shape. -/
def Shape.name : Shape → String
  | .flat => "Flat"
  | .grouped => "Grouped"

/-- A rule that can be run: its jobs in order and its shape. -/
structure Rule where
  jobs : List Job
  shape : Shape
deriving DecidableEq

/-- Everything a rule can be read from. -/
inductive RuleInput where
  /-- A JSON or YAML document. -/
  | text (text : String)
  /-- A decoded document. -/
  | value (v : Value)
  /-- A list of jobs. -/
  | jobs (jobs : List Job)
  /-- Conditions and actions. -/
  | grouped (rule : GroupedRule)

/-- The rule of a list of jobs: the jobs as they are. -/
def Rule.ofJobs (jobs : List Job) : Rule := ⟨jobs, .flat⟩

/-- The rule of a grouped input: its conditions and then its actions, each
under the kind that its list implies. -/
def Rule.ofGrouped (rule : GroupedRule) : Rule where
  jobs := rule.conditions.map (·.withKind .condition) ++ rule.actions.map (·.withKind .action)
  shape := .grouped

end RuleEngine
