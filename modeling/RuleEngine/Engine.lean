import RuleEngine.Config
import RuleEngine.Export
import RuleEngine.Receiver
import RuleEngine.Rule.Input

/-!
# RuleEngine.Engine

The rule engine: a registry of callables, a reader of rules, receivers of the
events of runs, a configuration, and what is kept from run to run: the context
session, the jobs of the rule that was read last, and the timed jobs of the
latest run.

1. A rule that cannot be read changes nothing.
2. Reading comes first, then the rule is kept, then it is run.
3. The run starts with no timed job; whatever its outcome, the jobs that
   returned are timed, each name once.
-/

namespace RuleEngine

/-- The timing of the latest run: the names of the jobs that returned, and
whether the run ended without an error. -/
structure Metrics where
  jobs : List String
  ended : Bool
deriving DecidableEq

/-- A rule engine. -/
structure Engine where
  registry : Registry
  reader : RuleReader
  signals : Signals Receiver
  metrics : Metrics
  session : Session
  rule : List Job
  config : Config

/-- What a run leaves behind: the engine, its outcome, the session, the calls it
made, and the effects on the outside. -/
structure Ran where
  engine : Engine
  outcome : Except Error Bool
  session : Session
  calls : List Call
  effects : List Effect

namespace Engine

/-- A new engine. -/
def new (diagnose : Diagnosis) : Engine where
  registry := .empty
  reader := Rule.read diagnose
  signals := .empty
  metrics := ⟨[], false⟩
  session := .empty
  rule := []
  config := .default

/-! ## Set-up -/

/-- The engine with another context session. -/
def withContext (e : Engine) (session : Session) : Engine := { e with session := session }

/-- The engine with another reader of rules. -/
def withReader (e : Engine) (reader : RuleReader) : Engine := { e with reader := reader }

/-- The engine with another configuration.  A configuration with a log
directory connects a run log; those of earlier ones stay connected. -/
def withConfig (w : Surroundings) (e : Engine) (config : Config) : Noted Engine :=
  match config.logDir with
  | none => .plain { e with config := config }
  | some dir =>
    (RunLog.create w dir config.name).map fun log =>
      { e with signals := (e.signals.connect .postRun (.runLog log)).2, config := config }

/-- Registers a function under its declared name. -/
def register (e : Engine) (d : Descriptor) : Noted Engine :=
  (e.registry.register d).map fun registry => { e with registry := registry }

/-- Imports a source, by the overrides if there are any. -/
def importFrom (e : Engine) (source : Source) (overrides : Option (List (String × Descriptor))) :
    Noted Engine :=
  (e.registry.importFrom source overrides).map fun registry => { e with registry := registry }

/-- Connects a receiver to a hook point. -/
def connect (e : Engine) (point : HookPoint) (receiver : Receiver) : Nat × Engine :=
  let (id, signals) := e.signals.connect point receiver
  (id, { e with signals := signals })

/-- Ends a connection of a hook point. -/
def disconnect (e : Engine) (point : HookPoint) (id : Nat) : Bool × Engine :=
  let (found, signals) := e.signals.disconnect point id
  (found, { e with signals := signals })

/-! ## Reading and running -/

/-- Reads a rule and keeps its jobs. -/
def read (e : Engine) (input : RuleInput) : Noted (Except Error Rule) × Engine :=
  let parsed := e.reader input
  (parsed, match parsed.value with
    | .ok rule => { e with rule := rule.jobs }
    | .error _ => e)

/-- Runs a rule that was read. -/
def execute (w : Surroundings) (e : Engine) (rule : Rule) (session : Session) : Ran :=
  let report := Run.run e.registry rule session
  let (signals, effects) := e.signals.deliver w report.happenings
  { engine := { e with signals := signals, metrics := ⟨report.timed, report.outcome.isOk⟩ }
    outcome := report.outcome
    session := report.session
    calls := report.calls
    effects := effects }

/-- Reads a rule and runs it on a session of the caller. -/
def run (w : Surroundings) (e : Engine) (input : RuleInput) (session : Session) : Ran :=
  let (parsed, e) := e.read input
  let told := parsed.notices.map Effect.notice
  match parsed.value with
  | .error error => ⟨e, .error error, session, [], told⟩
  | .ok rule =>
    let ran := e.execute w rule session
    { ran with effects := told ++ ran.effects }

/-- Reads a rule and runs it on the context session. -/
def runInContext (w : Surroundings) (e : Engine) (input : RuleInput) : Ran :=
  let ran := e.run w input e.session
  { ran with engine := { ran.engine with session := ran.session } }

/-- Imports a source, then reads a rule and runs it. -/
def runWithImports (w : Surroundings) (e : Engine) (input : RuleInput) (session : Session)
    (source : Source) : Ran :=
  let imported := e.importFrom source none
  let ran := imported.value.run w input session
  { ran with effects := imported.notices.map Effect.notice ++ ran.effects }

/-! ## Exports -/

/-- The metadata of the callables in a format, grouped as configured. -/
def exportAs (e : Engine) (format : Export.Format) : Export.Output :=
  Export.ofRegistry e.config.groupByKind format e.registry

/-- The metadata of the callables in the configured format. -/
def exportDefault (e : Engine) : Export.Output := e.exportAs e.config.exportFormat

end Engine

end RuleEngine
