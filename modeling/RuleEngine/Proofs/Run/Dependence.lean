import RuleEngine.Proofs.Run.Lifecycle

/-!
# RuleEngine.Proofs.Run.Dependence

What a run depends on: the reader, and of the callables that the rule names their
handlers and the names and defaults of their parameters.

1. `Function.bind_congr` — binding reads the names and the defaults of the parameters.
2. `Run.runJobs_congr` — registries that are alike on the jobs of a rule run them to the
   same report, by induction over the jobs.
3. `Engine.run_alike` — nothing else of an engine matters: neither the labels, the kinds
   and the types of what is registered, nor other callables, receivers, configuration or
   what earlier runs left.
-/

namespace RuleEngine

/-! ## Functions -/

namespace Function

/-- What binding reads of the parameters of a function: their names and defaults, in
order. -/
def signature (f : Function) : List (String × Option Value) :=
  f.params.map fun p => (p.name, p.default)

/-- Functions with the same handler and the same signature. -/
structure Alike (f g : Function) : Prop where
  handler : f.handler = g.handler
  signature : f.signature = g.signature

variable {f g : Function}

theorem isEmpty_params (f : Function) : f.params.isEmpty = f.signature.isEmpty := by
  rw [signature, List.isEmpty_map]

theorem declares_eq_any (f : Function) (name : String) :
    f.declares name = f.signature.any fun p => p.1 = name := by
  rw [declares, signature, List.any_map]
  rfl

theorem firstUndeclared_congr (h : f.signature = g.signature) (args : Object) :
    f.firstUndeclared args = g.firstUndeclared args := by
  simp only [firstUndeclared, isEmpty_params, declares_eq_any, h]

/-- Parameters of the same names and defaults complete arguments in the same way. -/
theorem complete_congr (job : String) {params others : List Param}
    (h : params.map (fun p => (p.name, p.default)) = others.map (fun p => (p.name, p.default)))
    (values : Object) : complete job values params = complete job values others := by
  induction params generalizing others values with
  | nil =>
    rw [List.map_nil, eq_comm, List.map_eq_nil_iff] at h
    rw [h]
  | cons p params ih =>
    obtain ⟨q, others, rfl⟩ := List.exists_cons_of_ne_nil fun hnil : others = [] => by
      simp [hnil] at h
    rw [List.map_cons, List.map_cons] at h
    obtain ⟨hfirst, hrest⟩ := List.cons.inj h
    obtain ⟨hname, hdefault⟩ := Prod.mk.inj hfirst
    rw [complete, complete, hname, hdefault]
    split
    · exact ih hrest values
    · split
      · exact ih hrest _
      · rfl

theorem bind_congr (h : f.signature = g.signature) (job : Job) : f.bind job = g.bind job := by
  rw [bind, bind, firstUndeclared_congr h]
  split
  · rfl
  · rw [complete_congr job.name h]

theorem Alike.call (h : f.Alike g) (s : Session) (arguments : Arguments) :
    f.call s arguments = g.call s arguments := by
  rw [Function.call, Function.call, h.handler]

end Function

/-! ## Registries -/

/-- What two registries have under a name: no callable, or callables whose functions
are alike, whatever their labels and kinds. -/
inductive Callable.Alike : Option Callable → Option Callable → Prop
  | none : Alike none none
  | some {c d : Callable} (function : c.function.Alike d.function) : Alike (some c) (some d)

/-- Registries that are alike under the name of every job. -/
def Registry.AlikeOn (jobs : List Job) (r₁ r₂ : Registry) : Prop :=
  ∀ job ∈ jobs, Callable.Alike (r₁.get? job.name) (r₂.get? job.name)

namespace Run

variable {r₁ r₂ : Registry}

/-- What a job comes to: it is not prepared, with the same error, or functions that are
alike are called with the same arguments. -/
theorem prepare_alike {job : Job} (h : Callable.Alike (r₁.get? job.name) (r₂.get? job.name)) :
    (∃ e, prepare r₁ job = .error e ∧ prepare r₂ job = .error e) ∨
      ∃ f g arguments, f.Alike g ∧ prepare r₁ job = .ok (f, arguments) ∧
        prepare r₂ job = .ok (g, arguments) := by
  -- the relation is on what the two look-ups give, not on the registries
  generalize h₁ : r₁.get? job.name = found₁ at h
  generalize h₂ : r₂.get? job.name = found₂ at h
  cases h with
  | none =>
    left
    exact ⟨_, (prepare_eq_error_iff ..).2 (.inl ⟨h₁, rfl⟩),
      (prepare_eq_error_iff ..).2 (.inl ⟨h₂, rfl⟩)⟩
  | @some c d function =>
    have hbind := Function.bind_congr function.signature job
    cases hc : c.function.bind job with
    | error e =>
      left
      exact ⟨e, (prepare_eq_error_iff ..).2 (.inr ⟨c, h₁, hc⟩),
        (prepare_eq_error_iff ..).2 (.inr ⟨d, h₂, hbind ▸ hc⟩)⟩
    | ok arguments =>
      right
      exact ⟨_, _, arguments, function, (prepare_eq_ok_iff ..).2 ⟨c, h₁, rfl, hc⟩,
        (prepare_eq_ok_iff ..).2 ⟨d, h₂, rfl, hbind ▸ hc⟩⟩

/-- Registries that are alike on the jobs run them to the same report. -/
theorem runJobs_congr {jobs : List Job} (h : Registry.AlikeOn jobs r₁ r₂) (shape : Shape)
    (s : Session) : runJobs r₁ shape jobs s = runJobs r₂ shape jobs s := by
  induction jobs generalizing s with
  | nil => rfl
  | cons job jobs ih =>
    obtain ⟨hjob, hjobs⟩ := List.forall_mem_cons.1 h
    obtain ⟨e, h₁, h₂⟩ | ⟨f, g, arguments, alike, h₁, h₂⟩ := prepare_alike hjob
    · rw [runJobs, runJobs, h₁, h₂]
    · -- the same call is made, so what follows it starts on the same session
      rw [runJobs, runJobs, h₁, h₂]
      simp only [alike.call, ih hjobs]

theorem run_congr {rule : Rule} (h : Registry.AlikeOn rule.jobs r₁ r₂) (s : Session) :
    run r₁ rule s = run r₂ rule s := by
  rw [run, run, runJobs_congr h]

end Run

/-! ## Kinds -/

/-- The kind of a callable is nothing that is compared. -/
theorem Callable.Alike.withKind {c d : Option Callable} (h : Alike c d) (kind : JobKind) :
    Alike c (d.map ({ · with kind := kind })) := by
  cases h with
  | none => exact .none
  | some function => exact .some ⟨function.handler, function.signature⟩

namespace Registry

/-- The registry with other kinds for its callables. -/
def withKinds (kinds : String → JobKind) (r : Registry) : Registry :=
  ⟨r.callables.map fun entry => (entry.1, { entry.2 with kind := kinds entry.1 })⟩

theorem get?_withKinds (kinds : String → JobKind) (r : Registry) (name : String) :
    (r.withKinds kinds).get? name = (r.get? name).map ({ · with kind := kinds name }) := by
  obtain ⟨callables⟩ := r
  simp only [get?, withKinds]
  induction callables with
  | nil => rfl
  | cons entry callables ih =>
    obtain ⟨key, callable⟩ := entry
    rw [List.map_cons, Keyed.find?, Keyed.find?, ih]
    split
    · next heq => rw [heq, Option.map_some]
    · rfl

/-- Kinds make no difference to what registries are alike on. -/
theorem AlikeOn.withKinds {jobs : List Job} {r₁ r₂ : Registry} (h : AlikeOn jobs r₁ r₂)
    (kinds : String → JobKind) : AlikeOn jobs r₁ (r₂.withKinds kinds) := by
  intro job hjob
  rw [get?_withKinds]
  exact (h job hjob).withKind (kinds job.name)

end Registry

/-- What stops a run is decided by the last call alone: by its result, and by the kind
that the job has in the rule. -/
theorem Run.Outline.outcome_eq_false_iff {registry : Registry} {rule : Rule} {s : Session}
    {ran : Ran} (h : Run.Outline registry rule s ran) :
    ran.outcome = .ok false ↔
      ∃ call, ran.calls.getLast? = some call ∧ call.Stopping rule.shape := by
  cases h with
  | completed jobs linked passes outcome calls =>
    rw [outcome, calls]
    exact iff_of_false (by simp) (not_stopping_getLast passes)
  | @stopped passed call left jobs linked passes genuine stopping outcome calls session =>
    exact iff_of_true outcome ⟨call, by simp [calls], stopping⟩
  | broken jobs linked passes breaks outcome calls =>
    rw [outcome, calls]
    refine iff_of_false (by simp) ?_
    intro hstop
    obtain ⟨call, hlast, hstop⟩ := hstop
    obtain hcall | hcall := List.mem_append.1 (List.mem_of_getLast? hlast)
    · exact (passes call hcall).goesOn hstop
    · obtain ⟨failure, hfailed⟩ := breaks.calls_failed call hcall
      obtain ⟨result, hresult, -⟩ := hstop
      cases hfailed.symm.trans hresult

/-! ## Engines -/

namespace Engine

/-- What is the same when two engines run an input on a session. -/
structure RunAlike (w₁ w₂ : Surroundings) (e₁ e₂ : Engine) (input : RuleInput) (s : Session) :
    Prop where
  /-- The outcome, which may be an error. -/
  outcome : (e₁.run w₁ input s).outcome = (e₂.run w₂ input s).outcome
  session : (e₁.run w₁ input s).session = (e₂.run w₂ input s).session
  calls : (e₁.run w₁ input s).calls = (e₂.run w₂ input s).calls
  events : e₁.events input s = e₂.events input s
  /-- Observers are told the same, if there are the same ones. -/
  told : (∀ point, e₁.signals.observers point = e₂.signals.observers point) →
    seenOf (e₁.run w₁ input s).effects = seenOf (e₂.run w₂ input s).effects
  /-- The timed jobs and the rule that is kept are those of this run. -/
  kept : ∀ rule, (e₁.reader input).value = .ok rule →
    (e₁.run w₁ input s).engine.metrics = (e₂.run w₂ input s).engine.metrics ∧
      (e₁.run w₁ input s).engine.rule = rule.jobs ∧ (e₂.run w₂ input s).engine.rule = rule.jobs
  /-- An input that is rejected leaves each engine as it was. -/
  rejected : ∀ error, (e₁.reader input).value = .error error →
    (e₁.run w₁ input s).engine = e₁ ∧ (e₂.run w₂ input s).engine = e₂

section

variable {w₁ w₂ : Surroundings} {e₁ e₂ : Engine} {input : RuleInput} {s : Session}

theorem runAlike_of_rejected {error : Error} (h₁ : (e₁.reader input).value = .error error)
    (h₂ : (e₂.reader input).value = .error error) : RunAlike w₁ w₂ e₁ e₂ input s where
  outcome := by rw [run_of_rejected h₁, run_of_rejected h₂]
  session := by rw [run_of_rejected h₁, run_of_rejected h₂]
  calls := by rw [run_of_rejected h₁, run_of_rejected h₂]
  events := by simp only [events, h₁, h₂]
  told _ := by simp only [run_of_rejected h₁, run_of_rejected h₂, seenOf_map_notice]
  kept rule hread := by cases h₁.symm.trans hread
  rejected _ _ := by rw [run_of_rejected h₁, run_of_rejected h₂]; exact ⟨rfl, rfl⟩

/-- What a run keeps in the engine. -/
theorem engine_run_of_read {e : Engine} {rule : Rule} (h : (e.reader input).value = .ok rule)
    (w : Surroundings) (s : Session) :
    (e.run w input s).engine.metrics =
        ⟨(Run.run e.registry rule s).timed, (Run.run e.registry rule s).outcome.isOk⟩ ∧
      (e.run w input s).engine.rule = rule.jobs := by
  simp only [run, read, h]
  exact ⟨rfl, rfl⟩

theorem runAlike_of_read {rule : Rule} (h₁ : (e₁.reader input).value = .ok rule)
    (h₂ : (e₂.reader input).value = .ok rule)
    (halike : Registry.AlikeOn rule.jobs e₁.registry e₂.registry) :
    RunAlike w₁ w₂ e₁ e₂ input s := by
  obtain ⟨houtcome₁, hsession₁, hcalls₁⟩ := run_of_read h₁ w₁ s
  obtain ⟨houtcome₂, hsession₂, hcalls₂⟩ := run_of_read h₂ w₂ s
  obtain ⟨hmetrics₁, hrule₁⟩ := engine_run_of_read h₁ w₁ s
  obtain ⟨hmetrics₂, hrule₂⟩ := engine_run_of_read h₂ w₂ s
  have hjobs := Run.runJobs_congr halike rule.shape s
  have hevents : e₁.events input s = e₂.events input s := by
    simp only [events, h₁, h₂, Run.run_congr halike]
  constructor
  case outcome => rw [houtcome₁, houtcome₂, hjobs]
  case session => rw [hsession₁, hsession₂, hjobs]
  case calls => rw [hcalls₁, hcalls₂, hjobs]
  case events => exact hevents
  case told =>
    intro hobservers
    simp only [seenOf_run, hevents, hobservers]
  case kept =>
    intro rule' hread
    obtain rfl : rule = rule' := Except.ok.inj (h₁.symm.trans hread)
    exact ⟨by rw [hmetrics₁, hmetrics₂, Run.run_congr halike], hrule₁, hrule₂⟩
  case rejected =>
    intro error hread
    cases h₁.symm.trans hread

end

/-- Engines with the same reader run an input alike when their registries are alike on
the rule, if it is one. -/
theorem runAlike_of_alikeOn (w₁ w₂ : Surroundings) {e₁ e₂ : Engine} {input : RuleInput}
    (s : Session) (hreader : e₁.reader = e₂.reader)
    (halike : ∀ rule, (e₁.reader input).value = .ok rule →
      Registry.AlikeOn rule.jobs e₁.registry e₂.registry) :
    RunAlike w₁ w₂ e₁ e₂ input s := by
  cases h₁ : (e₁.reader input).value with
  | error error => exact runAlike_of_rejected h₁ (hreader ▸ h₁)
  | ok rule => exact runAlike_of_read h₁ (hreader ▸ h₁) (halike rule h₁)

/-- **What a run depends on.**  Two engines with the same reader run an input on a
session alike when, under every name that occurs in the rule, they both have no callable
or callables with the same handler and the same names and defaults of parameters, in
order.  In particular, the kinds of what is registered make no difference; whether a
result stops the run is decided by the kind of the job in the rule. -/
theorem run_alike (w₁ w₂ : Surroundings) (e₁ e₂ : Engine) (input : RuleInput) (s : Session)
    (hreader : e₁.reader = e₂.reader)
    (halike : ∀ rule, (e₁.reader input).value = .ok rule →
      Registry.AlikeOn rule.jobs e₁.registry e₂.registry) :
    RunAlike w₁ w₂ e₁ e₂ input s ∧
      (∀ kinds, RunAlike w₁ w₂ e₁ { e₂ with registry := e₂.registry.withKinds kinds } input s) ∧
      ∀ rule, (e₁.reader input).value = .ok rule →
        ((e₁.run w₁ input s).outcome = .ok false ↔
          ∃ call, (e₁.run w₁ input s).calls.getLast? = some call ∧ call.Stopping rule.shape) := by
  refine ⟨runAlike_of_alikeOn w₁ w₂ s hreader halike, ?_, ?_⟩
  · intro kinds
    exact runAlike_of_alikeOn w₁ w₂ s hreader fun rule hread => (halike rule hread).withKinds kinds
  · intro rule hread
    exact (run_outline hread w₁ s).outcome_eq_false_iff

/-- A new engine, and one that was set up and used in another way: other names, labels,
kinds, types and documentation, another order, another callable, receivers, a
configuration and what earlier runs left. -/
theorem run_alike_echoAndSeek :
    let used : Engine :=
      { registry := ⟨[("other", ⟨"other", "Other", .job, "other", [], none,
            fun s _ => ⟨.ok .null, s, []⟩⟩),
          ("seek", ⟨"seek", "Seek", .condition, "look", [], some "Looks for a job.",
            fun s _ =>
              ⟨.error (.error (.jobNotFound "lost")), s.insert "sought" (.bool true), []⟩⟩),
          ("echo", ⟨"echo", "Echo", .action, "repeat", [⟨"value", .boolean, none⟩], none,
            fun s arguments => ⟨.ok ((arguments.raw "value").getD .null), s, []⟩⟩)]⟩
        reader := Rule.read .terse
        signals := (Signals.empty.connect .postRun (.observer "o")).2
        metrics := ⟨["other"], true⟩
        session := ⟨[("kept", .null)]⟩
        rule := [⟨"other", .job, []⟩]
        config := { Config.default with name := "used" } }
    let e : Engine := { Engine.new .terse with registry := Run.echoAndSeek }
    let input : RuleInput := .grouped ⟨[Run.echoJob], [Run.seekJob]⟩
    let w : Surroundings := ⟨"20250101", "12:00:00", fun _ => true, fun _ => true⟩
    (e.reader = used.reader ∧
      ∀ rule, (e.reader input).value = .ok rule →
        Registry.AlikeOn rule.jobs e.registry used.registry) ∧
      (used.run w input .empty).engine.metrics.jobs = ["echo"] ∧
      RunAlike w w e used input .empty := by
  intro used e input w
  have halike : ∀ rule, (e.reader input).value = .ok rule →
      Registry.AlikeOn rule.jobs e.registry used.registry := by
    intro rule hread job hjob
    cases hread
    obtain rfl | rfl : job = Run.echoJob ∨ job = Run.seekJob := by
      simpa [Rule.ofGrouped, Run.echoJob, Run.seekJob, Job.withKind] using hjob
    · exact .some ⟨rfl, rfl⟩
    · exact .some ⟨rfl, rfl⟩
  exact ⟨⟨rfl, halike⟩, by rfl, (run_alike w w e used input .empty rfl halike).1⟩

end Engine

end RuleEngine
