import RuleEngine.Proofs.Engine.History
import RuleEngine.Proofs.Run.Lifecycle

/-!
# RuleEngine.Proofs.Engine.Context

The context session is a session of the caller in disguise: an engine that runs inputs on
its context session does what it would do for a caller who hands it that session, run after
run, and it always holds the session that this caller would have.

* `Ran.Disguises` relates the two runs of one input; `Engine.disguises_runInContext` is the
  step, whatever becomes of the run, since a run does not look at the context session
  (`Engine.run_withContext`);
* `Engine.runAllInContext_disguises` follows by induction over the inputs, with the engine of
  the caller and its session, put together by `withContext`, as the engine in disguise.
-/

namespace RuleEngine

namespace Engine

/-! ## Runs one after the other -/

/-- Runs inputs one after the other on the context session. -/
def runAllInContext (e : Engine) : List (Surroundings × RuleInput) → List Ran
  | [] => []
  | (w, input) :: inputs =>
    e.runInContext w input :: (e.runInContext w input).engine.runAllInContext inputs

/-- The events of inputs that are run one after the other on one session. -/
def eventsAll (e : Engine) (s : Session) : List (Surroundings × RuleInput) → List (List Event)
  | [] => []
  | (w, input) :: inputs =>
    e.events input s :: (e.run w input s).engine.eventsAll (e.run w input s).session inputs

/-- The events of inputs that are run one after the other on the context session. -/
def eventsAllInContext (e : Engine) : List (Surroundings × RuleInput) → List (List Event)
  | [] => []
  | (w, input) :: inputs =>
    e.events input e.session :: (e.runInContext w input).engine.eventsAllInContext inputs

end Engine

/-! ## The disguise -/

/-- What a run on a session of the caller and one on the context session have in common:
everything, but that the session is left to the caller in the one case and is the context
session of the engine in the other. -/
structure Ran.Disguises (owned inContext : Ran) : Prop where
  /-- The outcome, which may be an error. -/
  outcome : inContext.outcome = owned.outcome
  calls : inContext.calls = owned.calls
  /-- What receivers and run logs do, and what is told. -/
  effects : inContext.effects = owned.effects
  /-- The timed jobs. -/
  metrics : inContext.engine.metrics = owned.engine.metrics
  /-- The rule that is kept. -/
  rule : inContext.engine.rule = owned.engine.rule
  session : inContext.session = owned.session
  /-- The context session is the one that the caller has. -/
  context : inContext.engine.session = owned.session
  /-- Nothing else of the engines differs. -/
  engine : inContext.engine = owned.engine.withContext owned.session

namespace Engine

/-- An engine with the session of the caller in it runs an input as for the caller. -/
theorem runInContext_withContext (w : Surroundings) (e : Engine) (input : RuleInput)
    (s : Session) :
    (e.withContext s).runInContext w input =
      { e.run w input s with
        engine := (e.run w input s).engine.withContext (e.run w input s).session } := by
  have hrun := run_withContext w e s input s
  rw [runInContext]
  exact congrArg (fun ran : Ran => { ran with engine := ran.engine.withContext ran.session }) hrun

theorem disguises_runInContext (w : Surroundings) (e : Engine) (input : RuleInput) (s : Session) :
    Ran.Disguises (e.run w input s) ((e.withContext s).runInContext w input) := by
  rw [runInContext_withContext]
  constructor <;> rfl

theorem disguises_runAll (e : Engine) (s : Session) (inputs : List (Surroundings × RuleInput)) :
    List.Forall₂ Ran.Disguises (e.runAll s inputs) ((e.withContext s).runAllInContext inputs) := by
  induction inputs generalizing e s with
  | nil => exact .nil
  | cons first inputs ih =>
    obtain ⟨w, input⟩ := first
    have hstep := disguises_runInContext w e input s
    rw [runAll, runAllInContext, hstep.engine]
    exact .cons hstep (ih _ _)

theorem eventsAllInContext_withContext (e : Engine) (s : Session)
    (inputs : List (Surroundings × RuleInput)) :
    (e.withContext s).eventsAllInContext inputs = e.eventsAll s inputs := by
  induction inputs generalizing e s with
  | nil => rfl
  | cons first inputs ih =>
    obtain ⟨w, input⟩ := first
    have hevents : (e.withContext s).events input s = e.events input s := rfl
    rw [eventsAll, eventsAllInContext, (disguises_runInContext w e input s).engine, ih]
    exact congrArg (· :: _) hevents

/-- **The context session is a session of the caller in disguise.**  Inputs that are run one
after the other on the context session, whatever becomes of each run, come to the same as
when they are run on one session of the caller that is the context session at first; after
each run the context session is what the caller's session is then; and the events are the
same. -/
theorem runAllInContext_disguises (e : Engine) (inputs : List (Surroundings × RuleInput)) :
    List.Forall₂ Ran.Disguises (e.runAll e.session inputs) (e.runAllInContext inputs) ∧
      e.eventsAllInContext inputs = e.eventsAll e.session inputs :=
  ⟨disguises_runAll e e.session inputs, eventsAllInContext_withContext e e.session inputs⟩

end Engine

end RuleEngine
