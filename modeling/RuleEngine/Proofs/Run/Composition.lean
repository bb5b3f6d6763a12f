import RuleEngine.Proofs.Run.Dependence
import RuleEngine.Proofs.Run.Ledger

/-!
# RuleEngine.Proofs.Run.Composition

A rule can be split at any point: to run it is to run its first jobs and, if these complete,
to run the others on the session that they left.

1. `Run.runJobs_step` — what one job comes to does not depend on the jobs behind it, and on
   the shape of the rule only by whether its result stops the run.
2. `Report.andThen` — a report, and what follows it when it completed.  `Run.runJobs_append`
   is the law of splitting: appending lists of jobs becomes `andThen`, by induction over the
   jobs in front.
3. `Engine.Runs` — the runs of a rule by an engine, whether the engine has the rule at hand or
   reads it from an input; for the caller they come to what the report of the rule says
   (`Engine.Runs.reports`), so that the law holds of them (`Engine.run_append`).
-/

namespace RuleEngine

/-! ## One job -/

/-- What one job comes to, whatever the shape of the rule and the jobs behind it: an error, or
a call that returns; then its result decides whether the run goes on. -/
theorem Run.runJobs_step (registry : Registry) (job : Job) (s : Session) :
    (∃ last error, last.outcome = .error error ∧
        ∀ shape jobs, runJobs registry shape (job :: jobs) s = last) ∨
      ∃ call result, call.job = job ∧ call.before = s ∧ call.Returned result ∧
        ∀ shape jobs, runJobs registry shape (job :: jobs) s =
          .after call (if stops shape job.kind result then
              ⟨.ok false, call.after, [], [.notice (.shortCircuit job.name job.kind)]⟩
            else runJobs registry shape jobs call.after) := by
  cases hprepared : prepare registry job with
  | error error =>
    have hrun (shape : Shape) (jobs : List Job) : runJobs registry shape (job :: jobs) s =
        ⟨.error error, s, [], [.event (.preJob job s)]⟩ := by
      simp only [runJobs, hprepared]
    exact .inl ⟨_, error, rfl, hrun⟩
  | ok prepared =>
    obtain ⟨call, genuine, rfl, rfl⟩ := exists_genuine hprepared s
    have hrun := runJobs_of_genuine genuine
    cases hreply : call.reply.result with
    | error failure =>
      simp only [hreply] at hrun
      exact .inl ⟨_, .callable failure, rfl, hrun⟩
    | ok result =>
      simp only [hreply] at hrun
      exact .inr ⟨call, result, rfl, rfl, hreply, hrun⟩

/-! ## Reports one after the other -/

namespace Report

/-- The report of what comes first and, if this completed, of what follows on the session that
it left. -/
def andThen (first : Report) (next : Session → Report) : Report :=
  match first.outcome with
  | .ok true =>
    let rest := next first.session
    { rest with
      calls := first.calls ++ rest.calls
      happenings := first.happenings ++ rest.happenings }
  | .ok false | .error _ => first

variable {first : Report} {next : Session → Report}

theorem andThen_of_completed (h : first.outcome = .ok true) :
    first.andThen next =
      ⟨(next first.session).outcome, (next first.session).session,
        first.calls ++ (next first.session).calls,
        first.happenings ++ (next first.session).happenings⟩ := by
  simp only [andThen, h]

/-- Nothing follows a report that did not complete. -/
theorem andThen_of_ne (h : first.outcome ≠ .ok true) : first.andThen next = first := by
  unfold andThen
  split
  · contradiction
  · rfl
  · rfl

/-- What is in front of the first one is in front of both. -/
theorem after_andThen (call : Call) (first : Report) (next : Session → Report) :
    (after call first).andThen next = after call (first.andThen next) := by
  by_cases h : first.outcome = .ok true
  · have hafter : (after call first).outcome = .ok true := h
    rw [andThen_of_completed h, andThen_of_completed hafter]
    simp [after]
  · have hafter : (after call first).outcome ≠ .ok true := h
    rw [andThen_of_ne h, andThen_of_ne hafter]

end Report

namespace Run

/-- **Splitting a rule**: the jobs in front are run first and, if they complete, the others on
the session that they left. -/
theorem runJobs_append (registry : Registry) (shape : Shape) (xs ys : List Job) (s : Session) :
    runJobs registry shape (xs ++ ys) s =
      (runJobs registry shape xs s).andThen (runJobs registry shape ys) := by
  induction xs generalizing s with
  | nil => rfl
  | cons job xs ih =>
    rw [List.cons_append]
    obtain ⟨last, error, houtcome, hrun⟩ | ⟨call, result, rfl, rfl, -, hrun⟩ :=
      runJobs_step registry job s
    · have herror : last.outcome ≠ .ok true := by simp [houtcome]
      rw [hrun, hrun, Report.andThen_of_ne herror]
    · rw [hrun, hrun, Report.after_andThen]
      by_cases hstops : stops shape call.job.kind result = true
      · rw [if_pos hstops, if_pos hstops, Report.andThen_of_ne (by simp)]
      · rw [if_neg hstops, if_neg hstops, ih]

end Run

/-! ## Runs of a rule -/

/-- A run comes to what a report says. -/
structure Ran.Reports (ran : Ran) (report : Report) : Prop where
  outcome : ran.outcome = report.outcome
  session : ran.session = report.session
  calls : ran.calls = report.calls
  metrics : ran.engine.metrics = ⟨report.timed, report.outcome.isOk⟩

/-- The runs of a rule by an engine, on a session: of a rule that is at hand, and of one that
an input is read as, on a session of the caller or on the context session. -/
inductive Engine.Runs (e : Engine) (rule : Rule) : Session → Ran → Prop
  | execute (w : Surroundings) (s : Session) : Runs e rule s (e.execute w rule s)
  | run (w : Surroundings) {input : RuleInput} (h : (e.reader input).value = .ok rule)
    (s : Session) : Runs e rule s (e.run w input s)
  | runInContext (w : Surroundings) {input : RuleInput} (h : (e.reader input).value = .ok rule) :
    Runs e rule e.session (e.runInContext w input)

namespace Engine.Runs

variable {e : Engine} {rule : Rule} {s : Session} {ran : Ran}

/-- An input that is read as a rule is run by its jobs and its shape. -/
theorem reports_run {input : RuleInput} (h : (e.reader input).value = .ok rule) (w : Surroundings)
    (s : Session) :
    (e.run w input s).Reports (Run.runJobs e.registry rule.shape rule.jobs s) := by
  obtain ⟨houtcome, hsession, hcalls⟩ := run_of_read h w s
  have hmetrics := (engine_run_of_read h w s).1
  exact ⟨houtcome, hsession, hcalls, hmetrics⟩

theorem reports (h : e.Runs rule s ran) :
    ran.Reports (Run.runJobs e.registry rule.shape rule.jobs s) := by
  cases h with
  | execute w s => exact ⟨rfl, rfl, rfl, rfl⟩
  | run w hread s => exact reports_run hread w s
  | runInContext w hread =>
    have hrun := reports_run hread w e.session
    exact ⟨hrun.outcome, hrun.session, hrun.calls, hrun.metrics⟩

/-- A run registers nothing. -/
theorem registry_eq (h : e.Runs rule s ran) : ran.engine.registry = e.registry := by
  cases h with
  | execute w s => rfl
  | run w hread s => exact registry_run w e _ s
  | runInContext w hread => exact registry_run w e _ e.session

end Engine.Runs

/-! ## Splitting -/

/-- A run of a rule that is split, by the runs of its two parts. -/
structure Ran.Composed (whole first second : Ran) : Prop where
  /-- If the first part completes, the second one decides. -/
  goesOn : first.outcome = .ok true →
    whole.outcome = second.outcome ∧ whole.session = second.session ∧
      whole.calls = first.calls ++ second.calls
  /-- If it does not, the run is over. -/
  isOver : first.outcome ≠ .ok true →
    whole.outcome = first.outcome ∧ whole.session = first.session ∧ whole.calls = first.calls

namespace Engine

/-- **A rule can be split.**  A run of the jobs `xs ++ ys` comes to what a run of `xs` comes to,
unless this completes; then it comes to what the engine makes of `ys`, in the same shape, on
the session that was left.  Every rule has runs on every session (`Runs.execute`). -/
theorem run_append {e : Engine} {shape : Shape} {xs ys : List Job} {s : Session}
    {whole first second : Ran} (hwhole : e.Runs ⟨xs ++ ys, shape⟩ s whole)
    (hfirst : e.Runs ⟨xs, shape⟩ s first)
    (hsecond : first.engine.Runs ⟨ys, shape⟩ first.session second) :
    whole.Composed first second := by
  have htogether : whole.Reports (Run.runJobs e.registry shape (xs ++ ys) s) := hwhole.reports
  have hfront : first.Reports (Run.runJobs e.registry shape xs s) := hfirst.reports
  have hback : second.Reports (Run.runJobs e.registry shape ys first.session) :=
    hfirst.registry_eq ▸ hsecond.reports
  rw [Run.runJobs_append] at htogether
  constructor
  case goesOn =>
    intro hcompleted
    rw [hfront.outcome] at hcompleted
    rw [Report.andThen_of_completed hcompleted, ← hfront.session] at htogether
    have hcalls : whole.calls = first.calls ++ second.calls := by
      rw [htogether.calls, hfront.calls, hback.calls]
    exact ⟨htogether.outcome.trans hback.outcome.symm,
      htogether.session.trans hback.session.symm, hcalls⟩
  case isOver =>
    intro hover
    rw [hfront.outcome] at hover
    rw [Report.andThen_of_ne hover] at htogether
    exact ⟨htogether.outcome.trans hfront.outcome.symm,
      htogether.session.trans hfront.session.symm, htogether.calls.trans hfront.calls.symm⟩

/-- A rule that is read from conditions and actions, split where the kinds change: the
condition completes, and the action in the second part, at hand as a rule, breaks the run. -/
theorem run_append_echoAndSeek :
    let e : Engine := { Engine.new .terse with registry := Run.echoAndSeek }
    let w : Surroundings := ⟨"20250101", "12:00:00", fun _ => true, fun _ => true⟩
    let whole := e.run w (.grouped ⟨[Run.echoJob], [Run.seekJob]⟩) .empty
    let first := e.run w (.grouped ⟨[Run.echoJob], []⟩) .empty
    let second := first.engine.execute w ⟨[Run.seekJob], .grouped⟩ first.session
    e.Runs ⟨[Run.echoJob] ++ [Run.seekJob], .grouped⟩ .empty whole ∧
      e.Runs ⟨[Run.echoJob], .grouped⟩ .empty first ∧
      first.engine.Runs ⟨[Run.seekJob], .grouped⟩ first.session second ∧
      first.outcome = .ok true ∧
      whole.outcome = .error (.callable (.error (.jobNotFound "lost"))) ∧
      whole.Composed first second := by
  intro e w whole first second
  have hwhole : e.Runs ⟨[Run.echoJob] ++ [Run.seekJob], .grouped⟩ .empty whole := .run w rfl .empty
  have hfirst : e.Runs ⟨[Run.echoJob], .grouped⟩ .empty first := .run w rfl .empty
  have hsecond : first.engine.Runs ⟨[Run.seekJob], .grouped⟩ first.session second :=
    .execute w first.session
  exact ⟨hwhole, hfirst, hsecond, by rfl, by rfl, run_append hwhole hfirst hsecond⟩

end Engine

end RuleEngine
