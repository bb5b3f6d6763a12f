import RuleEngine.Proofs.Run.Course

/-!
# RuleEngine.Proofs.Run.Outline

The outline of a run: what the course of its jobs comes to for the caller.
Calls pass; then either no job is left, or a call stops the run, or a job
breaks it.

* `Breaks` — the four ways for a job to break a run, told apart by the registry,
  the arguments and the handler;
* `Run.outline_of_runJobs` — what the jobs of a rule come to has an outline, and so has every
  run of the engine (`Engine.run_outline`).
-/

namespace RuleEngine

/-! ## Binding -/

namespace Function

theorem complete_eq_error {job : String} {params : List Param} {values : Object} {e : Error}
    (h : complete job values params = .error e) : ∃ arg, e = .missingArgument job arg := by
  induction params generalizing values with
  | nil => simp [complete] at h
  | cons p params ih =>
    rw [complete] at h
    split at h
    · exact ih h
    · split at h
      · exact ih h
      · exact ⟨p.name, (Except.error.inj h).symm⟩

/-- Binding fails in one of two ways. -/
theorem bind_eq_error {f : Function} {job : Job} {e : Error} (h : f.bind job = .error e) :
    (∃ arg, e = .invalidArgument job.name arg .unexpected) ∨
      ∃ arg, e = .missingArgument job.name arg := by
  rw [bind] at h
  split at h
  · next arg _ => exact .inl ⟨arg, (Except.error.inj h).symm⟩
  · right
    cases hc : complete job.name job.args f.params with
    | error e' =>
      rw [hc] at h
      obtain rfl : e' = e := Except.error.inj h
      exact complete_eq_error hc
    | ok values =>
      rw [hc] at h
      cases h

end Function

namespace Run

/-! ## Breaking -/

/-- How the job that is next on a session breaks the run: with which error,
which calls, and which session. -/
inductive Breaks (registry : Registry) (s : Session) (job : Job) :
    Error → List Call → Session → Prop
  /-- No callable is registered under the name. -/
  | unknown (missing : registry.get? job.name = none) :
    Breaks registry s job (.jobNotFound job.name) [] s
  /-- The callable does not declare an argument. -/
  | undeclared {callable : Callable} {arg : String}
    (found : registry.get? job.name = some callable)
    (h : callable.function.bind job = .error (.invalidArgument job.name arg .unexpected)) :
    Breaks registry s job (.invalidArgument job.name arg .unexpected) [] s
  /-- An argument is missing. -/
  | missing {callable : Callable} {arg : String}
    (found : registry.get? job.name = some callable)
    (h : callable.function.bind job = .error (.missingArgument job.name arg)) :
    Breaks registry s job (.missingArgument job.name arg) [] s
  /-- The handler fails, whatever it fails with. -/
  | failed {callable : Callable} {arguments : Arguments} {failure : Failure}
    (found : registry.get? job.name = some callable)
    (bound : callable.function.bind job = .ok arguments)
    (h : (callable.function.handler s arguments).result = .error failure) :
    Breaks registry s job (.callable failure)
      [⟨job, arguments, s, callable.function.handler s arguments⟩]
      (callable.function.handler s arguments).session

/-- The error is decided by the job and the session alone. -/
theorem Breaks.error_unique {registry : Registry} {s t t' : Session} {job : Job} {e e' : Error}
    {calls calls' : List Call} (h : Breaks registry s job e calls t)
    (h' : Breaks registry s job e' calls' t') : e = e' := by
  cases h <;> cases h' <;> simp_all

/-- A run that is broken made at most one call more, whose handler failed. -/
theorem Breaks.calls_cases {registry : Registry} {s t : Session} {job : Job} {e : Error}
    {calls : List Call} (h : Breaks registry s job e calls t) :
    (calls = [] ∧ t = s) ∨
      ∃ call failure, calls = [call] ∧ t = call.after ∧ call.job = job ∧ call.before = s ∧
        call.Genuine registry ∧ call.reply.result = .error failure := by
  cases h with
  | unknown | undeclared | missing => exact .inl ⟨rfl, rfl⟩
  | failed found bound h =>
    refine .inr ⟨_, _, rfl, ?_, rfl, rfl, ⟨_, found, bound, rfl⟩, h⟩
    rw [Call.after_of_failed h]

/-- No call that breaks a run returned. -/
theorem Breaks.calls_failed {registry : Registry} {s t : Session} {job : Job} {e : Error}
    {calls : List Call} (h : Breaks registry s job e calls t) :
    ∀ call ∈ calls, ∃ failure, call.reply.result = .error failure := by
  obtain ⟨rfl, -⟩ | ⟨call, failure, rfl, -, -, -, -, hfailed⟩ := h.calls_cases
  · exact nofun
  · exact List.forall_mem_singleton.2 ⟨failure, hfailed⟩

/-- The three sorts of ends: no job is left, a call stops the run, or a job
breaks it. -/
theorem Ends.cases_sorts {registry : Registry} {shape : Shape} {s : Session} {left : List Job}
    {last : Report} (h : Ends registry shape s left last) :
    (left = [] ∧ last.outcome = .ok true ∧ last.calls = [] ∧ last.session = s) ∨
      (∃ call jobs, left = call.job :: jobs ∧ call.Genuine registry ∧ call.before = s ∧
        call.Stopping shape ∧ last.outcome = .ok false ∧ last.calls = [call] ∧
        last.session = call.after) ∨
      ∃ job jobs e, left = job :: jobs ∧ last.outcome = .error e ∧
        Breaks registry s job e last.calls last.session := by
  cases h with
  | completed => exact .inl ⟨rfl, rfl, rfl, rfl⟩
  | unknown missing => exact .inr (.inr ⟨_, _, _, rfl, rfl, .unknown missing⟩)
  | unbound found h =>
    refine .inr (.inr ⟨_, _, _, rfl, rfl, ?_⟩)
    obtain ⟨arg, rfl⟩ | ⟨arg, rfl⟩ := Function.bind_eq_error h
    · exact .undeclared found h
    · exact .missing found h
  | @failed call jobs failure genuine before h =>
    obtain ⟨callable, found, bound, hcall⟩ := genuine
    refine .inr (.inr ⟨_, _, _, rfl, rfl, ?_⟩)
    subst before
    have hfailed := Breaks.failed found bound (hcall ▸ h)
    simpa only [hcall, Report.after, Call.after_of_failed h] using hfailed
  | @stopped call jobs genuine before h =>
    exact .inr (.inl ⟨call, jobs, rfl, genuine, before, h, rfl, rfl, rfl⟩)

/-! ## Outline -/

/-- The outline of a run of a rule on a session. -/
inductive Outline (registry : Registry) (rule : Rule) (s : Session) (ran : Ran) : Prop
  /-- Every job passes. -/
  | completed {passed : List Call} (jobs : rule.jobs = passed.map Call.job)
    (linked : Linked s passed ran.session)
    (passes : ∀ call ∈ passed, call.Passes registry rule.shape)
    (outcome : ran.outcome = .ok true) (calls : ran.calls = passed)
  /-- A call stops the run. -/
  | stopped {passed : List Call} {call : Call} {left : List Job}
    (jobs : rule.jobs = passed.map Call.job ++ call.job :: left)
    (linked : Linked s passed call.before)
    (passes : ∀ call ∈ passed, call.Passes registry rule.shape)
    (genuine : call.Genuine registry) (stopping : call.Stopping rule.shape)
    (outcome : ran.outcome = .ok false) (calls : ran.calls = passed ++ [call])
    (session : ran.session = call.after)
  /-- A job breaks the run. -/
  | broken {passed last : List Call} {middle : Session} {job : Job} {left : List Job} {e : Error}
    (jobs : rule.jobs = passed.map Call.job ++ job :: left) (linked : Linked s passed middle)
    (passes : ∀ call ∈ passed, call.Passes registry rule.shape)
    (breaks : Breaks registry middle job e last ran.session)
    (outcome : ran.outcome = .error e) (calls : ran.calls = passed ++ last)

section

variable {registry : Registry} {rule : Rule} {s : Session} {ran : Ran}

/-- Calls that pass, and at most one more. -/
theorem Outline.calls_cases (h : Outline registry rule s ran) :
    ∃ passed rest, ran.calls = passed ++ rest ∧ rest.length ≤ 1 ∧
      (∀ call ∈ passed, call.Passes registry rule.shape) ∧
      (∀ call ∈ rest, call.Genuine registry) ∧ ran.calls.map Call.job <+: rule.jobs ∧
      Linked s ran.calls ran.session := by
  cases h with
  | @completed passed jobs linked passes outcome calls =>
    refine ⟨passed, [], by simp [calls], by simp, passes, nofun, ?_, calls ▸ linked⟩
    exact ⟨[], by simp [calls, jobs]⟩
  | @stopped passed call left jobs linked passes genuine stopping outcome calls session =>
    refine ⟨passed, [call], calls, by simp, passes, ?_, ?_, ?_⟩
    · exact List.forall_mem_singleton.2 genuine
    · exact ⟨left, by simp [calls, jobs]⟩
    · rw [calls, session]
      exact linked.append (.cons (.nil call.after))
  | @broken passed last middle job left e jobs linked passes breaks outcome calls =>
    obtain ⟨rfl, hsession⟩ | ⟨call, failure, rfl, hsession, rfl, rfl, genuine, -⟩ :=
      breaks.calls_cases
    · refine ⟨passed, [], calls, by simp, passes, nofun, ?_, ?_⟩
      · exact ⟨job :: left, by simp [calls, jobs]⟩
      · rw [calls, hsession, List.append_nil]
        exact linked
    · refine ⟨passed, [call], calls, by simp, passes, ?_, ?_, ?_⟩
      · exact List.forall_mem_singleton.2 genuine
      · exact ⟨left, by simp [calls, jobs]⟩
      · rw [calls, hsession]
        exact linked.append (.cons (.nil call.after))

/-- The calls of a run are calls of the registered handlers. -/
theorem Outline.genuine (h : Outline registry rule s ran) :
    ∀ call ∈ ran.calls, call.Genuine registry := by
  obtain ⟨passed, rest, hcalls, -, hpassed, hrest, -⟩ := h.calls_cases
  rw [hcalls]
  exact List.forall_mem_append.2 ⟨fun call hcall => (hpassed call hcall).genuine, hrest⟩

/-- The jobs of the calls are the first ones of the rule, in order. -/
theorem Outline.jobs_prefix (h : Outline registry rule s ran) :
    ran.calls.map Call.job <+: rule.jobs := by
  obtain ⟨passed, rest, -, -, -, -, hjobs, -⟩ := h.calls_cases
  exact hjobs

/-- Each call of a run is on the session that the one before it left. -/
theorem Outline.linked (h : Outline registry rule s ran) : Linked s ran.calls ran.session := by
  obtain ⟨passed, rest, -, -, -, -, -, linked⟩ := h.calls_cases
  exact linked

end

/-- A run that comes to what the jobs of the rule come to has an outline. -/
theorem outline_of_runJobs {registry : Registry} {rule : Rule} {s : Session} {ran : Ran}
    (houtcome : ran.outcome = (runJobs registry rule.shape rule.jobs s).outcome)
    (hsession : ran.session = (runJobs registry rule.shape rule.jobs s).session)
    (hcalls : ran.calls = (runJobs registry rule.shape rule.jobs s).calls) :
    Outline registry rule s ran := by
  obtain ⟨passed, left, middle, last, hjobs, linked, hpassed, ends, hrun⟩ :=
    runJobs_course registry rule.shape rule.jobs s
  rw [hrun, Report.outcome_foldr_after] at houtcome
  rw [hrun, Report.session_foldr_after] at hsession
  rw [hrun, Report.calls_foldr_after] at hcalls
  obtain ⟨rfl, hlastOutcome, hlastCalls, hlastSession⟩ |
    ⟨call, jobs, rfl, genuine, rfl, hstop, hlastOutcome, hlastCalls, hlastSession⟩ |
    ⟨job, jobs, error, rfl, hlastOutcome, hbreaks⟩ := ends.cases_sorts
  · rw [List.append_nil] at hjobs
    rw [hlastCalls, List.append_nil] at hcalls
    rw [hlastSession] at hsession
    exact .completed hjobs (hsession ▸ linked) hpassed (houtcome.trans hlastOutcome) hcalls
  · rw [hlastCalls] at hcalls
    exact .stopped hjobs linked hpassed genuine hstop (houtcome.trans hlastOutcome) hcalls
      (hsession.trans hlastSession)
  · rw [← hsession] at hbreaks
    exact .broken hjobs linked hpassed hbreaks (houtcome.trans hlastOutcome) hcalls

end Run

/-- Every run of the engine has an outline. -/
theorem Engine.run_outline {e : Engine} {input : RuleInput} {rule : Rule}
    (hread : (e.reader input).value = .ok rule) (w : Surroundings) (s : Session) :
    Run.Outline e.registry rule s (e.run w input s) := by
  obtain ⟨houtcome, hsession, hcalls⟩ := run_of_read hread w s
  exact Run.outline_of_runJobs houtcome hsession hcalls

end RuleEngine
