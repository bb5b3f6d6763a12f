import RuleEngine.Engine
import RuleEngine.Proofs.Truth

/-!
# RuleEngine.Proofs.Run.Course

The course of a run: calls that pass, each on the session that the one before
it left, and then an end.  There are five ways for a run to end — no job is
left, the next job names no callable, its arguments do not bind, its handler
fails, or its result stops the run — and `Ends` lists them with the whole
report of each.

* `runJobs_cons` — what one job comes to: its call passes, or the run ends;
* `runJobs_course` — every run is a course, by induction over the jobs.

Statements about runs are read off the course: what holds of every call that
passes, and what each of the five ends adds.
-/

namespace RuleEngine

/-! ## Calls -/

namespace Call

/-- The call is that of the handler which the registry has under the name of the
job, with the arguments that binding the job gave. -/
def Genuine (registry : Registry) (call : Call) : Prop :=
  ∃ callable, registry.get? call.job.name = some callable ∧
    callable.function.bind call.job = .ok call.arguments ∧
    callable.function.handler call.before call.arguments = call.reply

/-- The call returned a value. -/
def Returned (call : Call) (result : Value) : Prop := call.reply.result = .ok result

/-- The call returned a falsy value, and its job is a condition or the rule is
flat. -/
def Stopping (shape : Shape) (call : Call) : Prop :=
  ∃ result, call.Returned result ∧ result.Falsy ∧ (call.job.kind = .condition ∨ shape = .flat)

/-- A call after which the run goes on. -/
structure Passes (registry : Registry) (shape : Shape) (call : Call) : Prop where
  genuine : call.Genuine registry
  returned : ∃ result, call.Returned result
  goesOn : ¬ call.Stopping shape

theorem after_of_returned {call : Call} {result : Value} (h : call.Returned result) :
    call.after = (call.reply.session.record call.job.name result).value := by
  simp only [Returned] at h
  simp only [after, recorded, h]

theorem after_of_failed {call : Call} {failure : Failure} (h : call.reply.result = .error failure) :
    call.after = call.reply.session := by
  simp only [after, recorded, h, Noted.plain]

end Call

/-- Each call is on the session that the one before it left. -/
inductive Linked : Session → List Call → Session → Prop
  | nil (s : Session) : Linked s [] s
  | cons {call : Call} {calls : List Call} {t : Session} (rest : Linked call.after calls t) :
    Linked call.before (call :: calls) t

theorem Linked.append {s m t : Session} {calls others : List Call} (h : Linked s calls m)
    (h' : Linked m others t) : Linked s (calls ++ others) t := by
  induction h with
  | nil s => exact h'
  | cons rest ih => exact .cons (ih h')

/-! ## Reports -/

namespace Report

variable (calls : List Call) (last : Report)

@[simp] theorem outcome_foldr_after : (calls.foldr after last).outcome = last.outcome := by
  induction calls with
  | nil => rfl
  | cons call calls ih => exact ih

@[simp] theorem session_foldr_after : (calls.foldr after last).session = last.session := by
  induction calls with
  | nil => rfl
  | cons call calls ih => exact ih

@[simp] theorem calls_foldr_after : (calls.foldr after last).calls = calls ++ last.calls := by
  induction calls with
  | nil => rfl
  | cons call calls ih => simp [after, ih]

end Report

namespace Run

/-! ## One job -/

theorem stops_eq_true_iff (shape : Shape) (kind : JobKind) (result : Value) :
    stops shape kind result = true ↔ result.Falsy ∧ (kind = .condition ∨ shape = .flat) := by
  simp [stops, Value.truthy_eq_false_iff]

/-- A job is prepared when its name is registered and its arguments bind. -/
theorem prepare_eq_ok_iff (registry : Registry) (job : Job) (function : Function)
    (arguments : Arguments) :
    prepare registry job = .ok (function, arguments) ↔
      ∃ callable, registry.get? job.name = some callable ∧ callable.function = function ∧
        callable.function.bind job = .ok arguments := by
  simp only [prepare, Registry.resolve]
  cases registry.get? job.name with
  | none => simp [bind, Except.bind]
  | some callable => cases h : callable.function.bind job <;> simp [bind, Except.bind, h]

theorem prepare_eq_error_iff (registry : Registry) (job : Job) (e : Error) :
    prepare registry job = .error e ↔
      (registry.get? job.name = none ∧ e = .jobNotFound job.name) ∨
        ∃ callable, registry.get? job.name = some callable ∧
          callable.function.bind job = .error e := by
  simp only [prepare, Registry.resolve]
  cases registry.get? job.name with
  | none => simp [bind, Except.bind, eq_comm]
  | some callable => cases h : callable.function.bind job <;> simp [bind, Except.bind, h]

/-- How a run is over before another call passes. -/
inductive Ends (registry : Registry) (shape : Shape) (s : Session) : List Job → Report → Prop
  /-- No job is left. -/
  | completed : Ends registry shape s [] ⟨.ok true, s, [], []⟩
  /-- The next job names no callable. -/
  | unknown {job : Job} {jobs : List Job} (missing : registry.get? job.name = none) :
    Ends registry shape s (job :: jobs)
      ⟨.error (.jobNotFound job.name), s, [], [.event (.preJob job s)]⟩
  /-- The arguments of the next job do not bind. -/
  | unbound {job : Job} {jobs : List Job} {callable : Callable} {e : Error}
    (found : registry.get? job.name = some callable) (h : callable.function.bind job = .error e) :
    Ends registry shape s (job :: jobs) ⟨.error e, s, [], [.event (.preJob job s)]⟩
  /-- The handler of the next job fails. -/
  | failed {call : Call} {jobs : List Job} {failure : Failure} (genuine : call.Genuine registry)
    (before : call.before = s) (h : call.reply.result = .error failure) :
    Ends registry shape s (call.job :: jobs)
      (.after call ⟨.error (.callable failure), call.after, [], []⟩)
  /-- The result of the next job stops the run. -/
  | stopped {call : Call} {jobs : List Job} (genuine : call.Genuine registry)
    (before : call.before = s) (h : call.Stopping shape) :
    Ends registry shape s (call.job :: jobs)
      (.after call ⟨.ok false, call.after, [],
        [.notice (.shortCircuit call.job.name call.job.kind)]⟩)

/-- A job that is prepared is called. -/
theorem exists_genuine {registry : Registry} {job : Job} {prepared : Function × Arguments}
    (h : prepare registry job = .ok prepared) (s : Session) :
    ∃ call : Call, call.Genuine registry ∧ call.job = job ∧ call.before = s := by
  obtain ⟨callable, found, -, hbind⟩ := (prepare_eq_ok_iff ..).1 h
  have genuine : Call.Genuine registry
      ⟨job, prepared.2, s, callable.function.handler s prepared.2⟩ :=
    ⟨callable, found, hbind, rfl⟩
  exact ⟨_, genuine, rfl, rfl⟩

/-- What comes after a call, as its result says. -/
theorem runJobs_of_genuine {registry : Registry} {call : Call} (h : call.Genuine registry)
    (shape : Shape) (jobs : List Job) :
    runJobs registry shape (call.job :: jobs) call.before =
      .after call (match call.reply.result with
        | .error failure => ⟨.error (.callable failure), call.after, [], []⟩
        | .ok result =>
          if stops shape call.job.kind result then
            ⟨.ok false, call.after, [], [.notice (.shortCircuit call.job.name call.job.kind)]⟩
          else runJobs registry shape jobs call.after) := by
  obtain ⟨callable, found, hbind, hcall⟩ := h
  have hp : prepare registry call.job = .ok (callable.function, call.arguments) :=
    (prepare_eq_ok_iff ..).2 ⟨callable, found, rfl, hbind⟩
  simp only [runJobs, hp, Function.call, hcall]
  cases call.reply.result with
  | error failure => rfl
  | ok result => by_cases hs : stops shape call.job.kind result = true <;> simp [hs]

/-- What one job comes to: its call passes and the run goes on after it, or the
run ends. -/
theorem runJobs_cons (registry : Registry) (shape : Shape) (job : Job) (jobs : List Job)
    (s : Session) :
    (∃ call : Call, call.job = job ∧ call.before = s ∧ call.Passes registry shape ∧
      runJobs registry shape (job :: jobs) s =
        .after call (runJobs registry shape jobs call.after)) ∨
      Ends registry shape s (job :: jobs) (runJobs registry shape (job :: jobs) s) := by
  cases hp : prepare registry job with
  | error e =>
    right
    simp only [runJobs, hp]
    obtain ⟨missing, rfl⟩ | ⟨callable, found, h⟩ := (prepare_eq_error_iff registry job e).1 hp
    · exact .unknown missing
    · exact .unbound found h
  | ok prepared =>
    obtain ⟨call, genuine, rfl, rfl⟩ := exists_genuine hp s
    have hrun := runJobs_of_genuine genuine shape jobs
    cases hr : call.reply.result with
    | error failure =>
      right
      simp only [hr] at hrun
      rw [hrun]
      exact .failed genuine rfl hr
    | ok result =>
      simp only [hr] at hrun
      by_cases hs : stops shape call.job.kind result = true
      · right
        rw [if_pos hs] at hrun
        rw [hrun]
        exact .stopped genuine rfl ⟨result, hr, (stops_eq_true_iff ..).1 hs⟩
      · left
        rw [if_neg hs] at hrun
        refine ⟨call, rfl, rfl, ⟨genuine, ⟨result, hr⟩, ?_⟩, hrun⟩
        intro hstop
        obtain ⟨other, hother, stopping⟩ := hstop
        have heq : result = other := Except.ok.inj (hr.symm.trans hother)
        subst heq
        exact hs ((stops_eq_true_iff ..).2 stopping)

/-! ## All jobs -/

/-- **The course of a run**: some calls pass, and then the run ends. -/
theorem runJobs_course (registry : Registry) (shape : Shape) (jobs : List Job) (s : Session) :
    ∃ passed left middle last,
      jobs = passed.map Call.job ++ left ∧ Linked s passed middle ∧
        (∀ call ∈ passed, call.Passes registry shape) ∧ Ends registry shape middle left last ∧
        runJobs registry shape jobs s = passed.foldr Report.after last := by
  induction jobs generalizing s with
  | nil => exact ⟨[], [], s, _, rfl, .nil s, by simp, .completed, rfl⟩
  | cons job jobs ih =>
    obtain ⟨call, rfl, rfl, passes, hrun⟩ | ends := runJobs_cons registry shape job jobs s
    · obtain ⟨passed, left, middle, last, rfl, linked, hpassed, ends, hrest⟩ := ih call.after
      refine ⟨call :: passed, left, middle, last, rfl, .cons linked, ?_, ends, ?_⟩
      · exact List.forall_mem_cons.2 ⟨passes, hpassed⟩
      · rw [hrun, hrest, List.foldr_cons]
    · exact ⟨[], job :: jobs, s, _, rfl, .nil s, by simp, ends, rfl⟩

end Run

/-! ## In the engine -/

namespace Engine

variable {e : Engine} {input : RuleInput} {rule : Rule}

/-- A rule that is read is run by its jobs and its shape, on the registry that
the engine has. -/
theorem run_of_read (h : (e.reader input).value = .ok rule) (w : Surroundings) (s : Session) :
    (e.run w input s).outcome = (Run.runJobs e.registry rule.shape rule.jobs s).outcome ∧
      (e.run w input s).session = (Run.runJobs e.registry rule.shape rule.jobs s).session ∧
      (e.run w input s).calls = (Run.runJobs e.registry rule.shape rule.jobs s).calls := by
  simp only [run, read, h]
  exact ⟨rfl, rfl, rfl⟩

/-- An input that is no rule is rejected, and nothing else happens. -/
theorem run_of_rejected {error : Error} (h : (e.reader input).value = .error error)
    (w : Surroundings) (s : Session) :
    e.run w input s =
      ⟨e, .error error, s, [], (e.reader input).notices.map Effect.notice⟩ := by
  simp only [run, read, h]

end Engine

end RuleEngine
