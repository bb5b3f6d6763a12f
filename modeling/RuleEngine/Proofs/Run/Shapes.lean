import RuleEngine.Proofs.Run.Composition
import RuleEngine.Proofs.Run.Gate

/-!
# RuleEngine.Proofs.Run.Shapes

A flat rule is a grouped rule with more stops: any falsy result stops it, and not only that of
a condition.

1. `Run.runJobs_shapes` — the flat run of some jobs and the grouped one are in step, job by job.
   Either they have the same report, or the flat one was cut short by a falsy job that is no
   condition, where the grouped one went on (`Report.CutShort`).
2. What an engine shows of a run, the shape of the rule apart, follows from the report
   (`Engine.Runs.agrees`), so that `Engine.run_shapes` is read off the two cases.
-/

namespace RuleEngine

/-! ## Stops -/

/-- What stops a grouped rule stops a flat one. -/
theorem Run.stops_flat_of_grouped {kind : JobKind} {result : Value}
    (h : stops .grouped kind result = true) : stops .flat kind result = true := by
  rw [stops_eq_true_iff] at h ⊢
  exact ⟨h.1, .inr rfl⟩

/-- What stops a flat rule and no grouped one is falsy, and no result of a condition. -/
theorem Run.falsy_of_stops_flat {kind : JobKind} {result : Value}
    (hflat : stops .flat kind result = true) (hgrouped : ¬ stops .grouped kind result = true) :
    result.Falsy ∧ kind ≠ .condition := by
  rw [stops_eq_true_iff] at hflat hgrouped
  have hkind : kind ≠ .condition := fun hcondition => hgrouped ⟨hflat.1, .inl hcondition⟩
  exact ⟨hflat.1, hkind⟩

/-! ## Reports in step -/

namespace Report

/-- The report of a flat rule that was cut short, where that of the grouped rule went on. -/
structure CutShort (flat grouped : Report) : Prop where
  outcome : flat.outcome = .ok false
  calls : flat.calls <+: grouped.calls
  /-- It was cut short by a falsy job that is no condition. -/
  last : ∃ call, flat.calls.getLast? = some call ∧ call.job.kind ≠ .condition ∧ call.ReturnsFalsy

/-- The same call in front makes no difference. -/
theorem CutShort.after {flat grouped : Report} (h : CutShort flat grouped) (call : Call) :
    CutShort (after call flat) (after call grouped) where
  outcome := h.outcome
  calls := (List.prefix_cons_inj call).2 h.calls
  last := by
    obtain ⟨last, hlast, hfalsy⟩ := h.last
    have hcons : (call :: flat.calls).getLast? = some last := by
      rw [List.getLast?_cons, hlast, Option.getD_some]
    exact ⟨last, hcons, hfalsy⟩

end Report

/-- A flat run and a grouped run of the same jobs have the same report, or the flat one was cut
short. -/
theorem Run.runJobs_shapes (registry : Registry) (jobs : List Job) (s : Session) :
    runJobs registry .grouped jobs s = runJobs registry .flat jobs s ∨
      (runJobs registry .flat jobs s).CutShort (runJobs registry .grouped jobs s) := by
  induction jobs generalizing s with
  | nil => exact .inl rfl
  | cons job jobs ih =>
    obtain ⟨last, error, -, hrun⟩ | ⟨call, result, rfl, rfl, hresult, hrun⟩ :=
      runJobs_step registry job s
    · exact .inl ((hrun ..).trans (hrun ..).symm)
    · rw [hrun, hrun]
      by_cases hgrouped : stops .grouped call.job.kind result = true
      · have hflat := stops_flat_of_grouped hgrouped
        rw [if_pos hgrouped, if_pos hflat]
        exact .inl rfl
      · rw [if_neg hgrouped]
        by_cases hflat : stops .flat call.job.kind result = true
        · -- this is where the two part, for good
          obtain ⟨hfalsy, hkind⟩ := falsy_of_stops_flat hflat hgrouped
          rw [if_pos hflat]
          exact .inr ⟨rfl, ⟨_, rfl⟩, call, rfl, hkind, result, hresult, hfalsy⟩
        · rw [if_neg hflat]
          exact (ih call.after).imp (congrArg _) fun hcut => hcut.after call

/-! ## Runs that agree -/

/-- What two runs of an engine have in common that agree: everything that the caller, the
metrics and the observers can tell. -/
structure Ran.Agrees (ran other : Ran) : Prop where
  outcome : ran.outcome = other.outcome
  session : ran.session = other.session
  calls : ran.calls = other.calls
  metrics : ran.engine.metrics = other.engine.metrics
  seen : seenOf ran.effects = seenOf other.effects

/-- The events of a rule do not tell its shape. -/
theorem Run.events_congr {registry : Registry} {jobs : List Job} {shape other : Shape} {s : Session}
    (h : runJobs registry shape jobs s = runJobs registry other jobs s) :
    (run registry ⟨jobs, shape⟩ s).events = (run registry ⟨jobs, other⟩ s).events := by
  simp only [Report.events_eq, run, eventsOf_notice, eventsOf_event, eventsOf_append,
    eventsOf_ending, h]

namespace Engine.Runs

variable {e : Engine} {s : Session}

/-- Observers take note of the events of the rule. -/
theorem seenOf_eq {rule : Rule} {ran : Ran} (h : e.Runs rule s ran) :
    seenOf ran.effects =
      (Run.run e.registry rule s).events.flatMap fun event =>
        (e.signals.observers event.point).map (·, event) := by
  have hread {w : Surroundings} {input : RuleInput} (hread : (e.reader input).value = .ok rule)
      (s : Session) : seenOf (e.run w input s).effects =
        (Run.run e.registry rule s).events.flatMap fun event =>
          (e.signals.observers event.point).map (·, event) := by
    simp only [seenOf_run, events, hread]
  cases h with
  | execute w s => exact Signals.seenOf_deliver w e.signals (Run.run e.registry rule s).happenings
  | run w h s => exact hread h s
  | runInContext w h => exact hread h e.session

/-- Runs of the same jobs agree when they have the same report. -/
theorem agrees {jobs : List Job} {shape other : Shape} {ran ran' : Ran}
    (h : e.Runs ⟨jobs, shape⟩ s ran) (h' : e.Runs ⟨jobs, other⟩ s ran')
    (hjobs : Run.runJobs e.registry shape jobs s = Run.runJobs e.registry other jobs s) :
    ran.Agrees ran' := by
  have hran : ran.Reports (Run.runJobs e.registry other jobs s) := hjobs ▸ h.reports
  have hran' : ran'.Reports (Run.runJobs e.registry other jobs s) := h'.reports
  have hseen : seenOf ran.effects = seenOf ran'.effects := by
    rw [h.seenOf_eq, h'.seenOf_eq, Run.events_congr hjobs]
  exact ⟨hran.outcome.trans hran'.outcome.symm, hran.session.trans hran'.session.symm,
    hran.calls.trans hran'.calls.symm, hran.metrics.trans hran'.metrics.symm, hseen⟩

end Engine.Runs

/-! ## Flat and grouped -/

/-- A run of jobs as a flat rule, beside one of the same jobs as a grouped rule. -/
structure Ran.StopsMore (flat grouped : Ran) : Prop where
  /-- The calls of the flat run are the first ones of the grouped run. -/
  calls : flat.calls <+: grouped.calls
  /-- If the flat run completes or breaks, so does the grouped one, and to the same end. -/
  kept : flat.outcome ≠ .ok false → grouped.Agrees flat
  /-- If the grouped run is stopped, so is the flat one. -/
  stopped : grouped.outcome = .ok false → flat.outcome = .ok false
  /-- The two agree if no job that is not a condition returned a falsy value. -/
  agrees : (∀ call ∈ flat.calls, call.job.kind ≠ .condition → ¬ call.ReturnsFalsy) →
    grouped.Agrees flat

namespace Engine

/-- **Flat is grouped with more stops.**  Of the same jobs on the same session, whatever their
kinds, the flat run makes the first calls of the grouped run; it comes to the same unless it
is stopped, which it is whenever the grouped run is; and it is stopped where the grouped run
goes on only by a falsy job that is no condition. -/
theorem run_shapes {e : Engine} {jobs : List Job} {s : Session} {flat grouped : Ran}
    (hflat : e.Runs ⟨jobs, .flat⟩ s flat) (hgrouped : e.Runs ⟨jobs, .grouped⟩ s grouped) :
    flat.StopsMore grouped := by
  obtain hsame | hcut := Run.runJobs_shapes e.registry jobs s
  · have hagrees : grouped.Agrees flat := hgrouped.agrees hflat hsame
    have hcalls : flat.calls <+: grouped.calls := by rw [hagrees.calls]
    exact ⟨hcalls, fun _ => hagrees, hagrees.outcome.symm.trans, fun _ => hagrees⟩
  · have hfirst : flat.Reports (Run.runJobs e.registry .flat jobs s) := hflat.reports
    have hsecond : grouped.Reports (Run.runJobs e.registry .grouped jobs s) := hgrouped.reports
    have hstopped : flat.outcome = .ok false := hfirst.outcome.trans hcut.outcome
    have hcalls : flat.calls <+: grouped.calls := by
      rw [hfirst.calls, hsecond.calls]
      exact hcut.calls
    constructor
    case calls => exact hcalls
    case kept => exact fun hkept => absurd hstopped hkept
    case stopped => exact fun _ => hstopped
    case agrees =>
      intro htruthy
      obtain ⟨call, hlast, hkind, hfalsy⟩ := hcut.last
      have hcall : call ∈ flat.calls := hfirst.calls ▸ List.mem_of_getLast? hlast
      exact absurd hfalsy (htruthy call hcall hkind)

/-- Three jobs of which the second one, an action, is falsy: the flat run is stopped there, and
the grouped one completes. -/
theorem run_shapes_falsyAction :
    let e : Engine :=
      { Engine.new .terse with registry := ⟨[Run.constant "yes" true, Run.constant "no" false]⟩ }
    let w : Surroundings := ⟨"20250101", "12:00:00", fun _ => true, fun _ => true⟩
    let jobs : List Job := [⟨"yes", .condition, []⟩, ⟨"no", .action, []⟩, ⟨"yes", .action, []⟩]
    let flat := e.run w (.jobs jobs) .empty
    let grouped := e.run w (.grouped ⟨[⟨"yes", .job, []⟩], jobs.drop 1⟩) .empty
    e.Runs ⟨jobs, .flat⟩ .empty flat ∧ e.Runs ⟨jobs, .grouped⟩ .empty grouped ∧
      flat.outcome = .ok false ∧ grouped.outcome = .ok true ∧
      flat.calls.length = 2 ∧ grouped.calls.length = 3 ∧ flat.StopsMore grouped := by
  intro e w jobs flat grouped
  have hflat : e.Runs ⟨jobs, .flat⟩ .empty flat := .run w rfl .empty
  have hgrouped : e.Runs ⟨jobs, .grouped⟩ .empty grouped := .run w rfl .empty
  exact ⟨hflat, hgrouped, by rfl, by rfl, by rfl, by rfl, run_shapes hflat hgrouped⟩

end Engine

end RuleEngine
