import RuleEngine.Registry
import RuleEngine.Signals

/-!
# RuleEngine.Run

Running a rule: its jobs are looked up, bound and called in order, each on the
session the one before it left, and every result is recorded in the session.

1. A falsy result stops the run when the job is a condition, or when the rule
   is flat.
2. An error of a look-up, a binding or a handler ends the run; what was done to
   the session before it stays done.

A run is a pure function of the registry, the rule and the session.  What is to
be seen of it from outside, events and notices, is part of its report, in order.
-/

namespace RuleEngine

/-- Something that happens in a run. -/
inductive Happening where
  | event (e : Event)
  | notice (n : Notice)
deriving DecidableEq

/-- A call of a handler: the job, the arguments bound for it, the session it
was called on, and what it left behind. -/
structure Call where
  job : Job
  arguments : Arguments
  before : Session
  reply : Reply

namespace Call

/-- What the call returned, unless its handler failed. -/
def result? (call : Call) : Option Value := call.reply.result.toOption

/-- The session with the result recorded; a call that failed records nothing. -/
def recorded (call : Call) : Noted Session :=
  match call.reply.result with
  | .ok result => call.reply.session.record call.job.name result
  | .error _ => .plain call.reply.session

/-- The session that the call leaves to what follows. -/
def after (call : Call) : Session := call.recorded.value

/-- What happens from the announcement of the job to the end of the call. -/
def happenings (call : Call) : List Happening :=
  .event (.preJob call.job call.before) :: call.reply.notices.map .notice ++
    match call.reply.result with
    | .ok result =>
      .notice (.jobReturned call.job.name call.job.kind result) ::
        call.recorded.notices.map .notice ++ [.event (.postJob call.job call.after result)]
    | .error _ => []

end Call

/-- What is known of a run when it is over: its outcome (whether it completed),
the session it left, the calls it made, and what happened.  All calls but the
last one returned. -/
structure Report where
  outcome : Except Error Bool
  session : Session
  calls : List Call
  happenings : List Happening

/-- What a call adds in front of the report of the rest. -/
def Report.after (call : Call) (rest : Report) : Report :=
  { rest with calls := call :: rest.calls, happenings := call.happenings ++ rest.happenings }

namespace Run

/-- Whether the result of a job ends the run. -/
def stops (shape : Shape) (kind : JobKind) (result : Value) : Bool :=
  !result.truthy && (kind = .condition || shape = .flat)

/-- The function of a job, and its arguments. -/
def prepare (registry : Registry) (job : Job) : Except Error (Function × Arguments) := do
  let callable ← registry.resolve job.name
  let arguments ← callable.function.bind job
  .ok (callable.function, arguments)

/-- Runs the jobs that are left. -/
def runJobs (registry : Registry) (shape : Shape) : List Job → Session → Report
  | [], session => ⟨.ok true, session, [], []⟩
  | job :: jobs, session =>
    match prepare registry job with
    | .error e => ⟨.error e, session, [], [.event (.preJob job session)]⟩
    | .ok (function, arguments) =>
      let call : Call := ⟨job, arguments, session, function.call session arguments⟩
      match call.reply.result with
      | .error failure => .after call ⟨.error (.callable failure), call.after, [], []⟩
      | .ok result =>
        if stops shape job.kind result then
          .after call ⟨.ok false, call.after, [], [.notice (.shortCircuit job.name job.kind)]⟩
        else .after call (runJobs registry shape jobs call.after)

/-- What happens after the last job, unless the run failed. -/
def ending (rule : Rule) (report : Report) : List Happening :=
  match report.outcome with
  | .ok completed =>
    [.event (.postRun rule.jobs report.session completed), .notice (.runEnd completed)]
  | .error _ => []

/-- Runs a rule. -/
def run (registry : Registry) (rule : Rule) (session : Session) : Report :=
  let report := runJobs registry rule.shape rule.jobs session
  { report with
    happenings :=
      .notice (.runStart rule.jobs.length rule.shape) :: .event (.preRun rule.jobs session) ::
        (report.happenings ++ ending rule report) }

end Run

/-- The calls that returned. -/
def Report.returned (report : Report) : List Call :=
  report.calls.filter fun call => call.result?.isSome

/-- The names of the calls that returned, each once, in the order of their first
calls. -/
def Report.timed (report : Report) : List String :=
  report.returned.foldl (fun names call =>
    if names.contains call.job.name then names else names ++ [call.job.name]) []

/-- The events of a run, in order. -/
def Report.events (report : Report) : List Event :=
  report.happenings.filterMap fun
    | .event e => some e
    | .notice _ => none

end RuleEngine
