import RuleEngine.Proofs.Engine.Logging
import RuleEngine.Proofs.Run.Composition

/-!
# RuleEngine.Proofs.Engine.Timing

What the metrics of an engine list: the jobs of the latest run whose handlers returned.

1. `FirstOf` — names, each once, in the order of their first occurrences.  To add a name that
   is absent keeps this (`FirstOf.setIfAbsent`), so that it holds of the timed jobs of a report
   by induction over the calls that returned (`Report.firstOf_timed`).
2. The calls of a run that returned come before the one that did not
   (`Run.Outline.parted`); hence `Ran.Times`, which says job by job what is listed.
3. `Engine.metrics_perform` is the step of a history: a run of a rule replaces the metrics, and
   nothing else touches them.  By induction, those of the latest run are kept
   (`Engine.performAll_metrics`).
-/

namespace RuleEngine

/-! ## First occurrences -/

/-- The list has the given names, each once, in the order of their first occurrences. -/
structure FirstOf (names listed : List String) : Prop where
  mem_iff : ∀ name, name ∈ listed ↔ name ∈ names
  order : listed.Pairwise fun name later => names.idxOf name < names.idxOf later

namespace FirstOf

variable {names listed : List String}

theorem nodup (h : FirstOf names listed) : listed.Nodup := by
  refine h.order.imp ?_
  rintro name _ hlt rfl
  exact Nat.lt_irrefl _ hlt

/-- Names that follow do not matter to the order of those that are listed. -/
theorem order_append (h : FirstOf names listed) (others : List String) :
    listed.Pairwise fun name later =>
      (names ++ others).idxOf name < (names ++ others).idxOf later := by
  have hidx (name : String) (hname : name ∈ listed) :
      (names ++ others).idxOf name = names.idxOf name :=
    List.idxOf_append_of_mem ((h.mem_iff name).1 hname)
  refine h.order.imp_of_mem ?_
  intro name later hname hlater hlt
  rwa [hidx name hname, hidx later hlater]

/-- Another name is added behind the others, unless it is there. -/
theorem setIfAbsent (h : FirstOf names listed) (name : String) :
    FirstOf (names ++ [name]) (if listed.contains name then listed else listed ++ [name]) := by
  have horder := h.order_append [name]
  by_cases hmem : name ∈ listed
  · rw [if_pos (List.contains_iff_mem.2 hmem)]
    refine ⟨?_, horder⟩
    intro other
    rw [List.mem_append, List.mem_singleton, ← h.mem_iff]
    exact ⟨Or.inl, fun hother => hother.elim id (· ▸ hmem)⟩
  · have hnew : name ∉ names := fun hname => hmem ((h.mem_iff name).2 hname)
    rw [if_neg (mt List.contains_iff_mem.1 hmem)]
    constructor
    · intro other
      simp only [List.mem_append, h.mem_iff]
    · refine List.pairwise_append.2 ⟨horder, List.pairwise_singleton .., ?_⟩
      intro first hfirst last hlast
      obtain rfl := List.mem_singleton.1 hlast
      have hbefore : first ∈ names := (h.mem_iff first).1 hfirst
      calc (names ++ [last]).idxOf first
          = names.idxOf first := List.idxOf_append_of_mem hbefore
        _ < names.length := List.idxOf_lt_length_of_mem hbefore
        _ = (names ++ [last]).idxOf last := by simp [List.idxOf_append_of_notMem hnew]

end FirstOf

/-! ## Calls that returned -/

/-- The handler of the call returned. -/
def Call.HasReturned (call : Call) : Prop := ∃ result, call.Returned result

theorem Call.isSome_result?_iff (call : Call) : call.result?.isSome = true ↔ call.HasReturned := by
  rw [result?, HasReturned]
  cases h : call.reply.result <;> simp [Returned, h, Except.toOption]

/-- A report times the calls that returned. -/
theorem Report.firstOf_timed (report : Report) :
    FirstOf (report.returned.map (·.job.name)) report.timed := by
  rw [timed]
  induction report.returned using List.reverseRecOn with
  | nil => exact ⟨by simp, .nil⟩
  | append_singleton calls call ih =>
    rw [List.map_append, List.foldl_append]
    exact ih.setIfAbsent call.job.name

/-- Calls of which those that returned come first. -/
structure Parted (calls returned failed : List Call) : Prop where
  append : calls = returned ++ failed
  returned : ∀ call ∈ returned, call.HasReturned
  failed : ∀ call ∈ failed, ¬ call.HasReturned

namespace Parted

variable {calls returned failed : List Call}

theorem filter_eq (h : Parted calls returned failed) :
    calls.filter (·.result?.isSome) = returned := by
  have hkept : returned.filter (·.result?.isSome) = returned :=
    List.filter_eq_self.2 fun call hcall => call.isSome_result?_iff.2 (h.returned call hcall)
  have hleft : failed.filter (·.result?.isSome) = [] :=
    List.filter_eq_nil_iff.2 fun call hcall => mt call.isSome_result?_iff.1 (h.failed call hcall)
  rw [h.append, List.filter_append, hkept, hleft, List.append_nil]

theorem mem_returned_iff (h : Parted calls returned failed) (call : Call) :
    call ∈ returned ↔ call ∈ calls ∧ call.HasReturned := by
  rw [← h.filter_eq, List.mem_filter, call.isSome_result?_iff]

/-- A call that returned is before every place where no call did. -/
theorem lt_of_hasReturned (h : Parted calls returned failed) {i j : Nat} {call : Call}
    (hcall : calls[j]? = some call) (hreturned : call.HasReturned)
    (hmissed : ∀ call, calls[i]? = some call → ¬ call.HasReturned) : j < i := by
  have hbefore : j < returned.length := by
    by_contra hlate
    rw [h.append, List.getElem?_append_right (Nat.le_of_not_lt hlate)] at hcall
    exact h.failed call (List.mem_of_getElem? hcall) hreturned
  have hbehind : returned.length ≤ i := by
    by_contra hearly
    have hi : i < returned.length := Nat.lt_of_not_le hearly
    have hother : calls[i]? = some returned[i] := by
      rw [h.append, List.getElem?_append_left hi, List.getElem?_eq_getElem hi]
    exact hmissed returned[i] hother (h.returned returned[i] (List.getElem_mem hi))
  exact Nat.lt_of_lt_of_le hbefore hbehind

end Parted

/-- The calls of a run that returned come first. -/
theorem Run.Outline.parted {registry : Registry} {rule : Rule} {s : Session} {ran : Ran}
    (h : Outline registry rule s ran) : ∃ returned failed, Parted ran.calls returned failed := by
  cases h with
  | @completed passed jobs linked passes outcome calls =>
    have hcalls : ran.calls = passed ++ [] := by rw [calls, List.append_nil]
    exact ⟨passed, [], hcalls, fun call hcall => (passes call hcall).returned, nofun⟩
  | @stopped passed call left jobs linked passes genuine stopping outcome calls session =>
    obtain ⟨result, hreturned, -⟩ := stopping
    have hcalls : ran.calls = (passed ++ [call]) ++ [] := by rw [calls, List.append_nil]
    refine ⟨passed ++ [call], [], hcalls, List.forall_mem_append.2 ⟨?_, ?_⟩, nofun⟩
    · exact fun call hcall => (passes call hcall).returned
    · exact List.forall_mem_singleton.2 ⟨result, hreturned⟩
  | @broken passed last middle job left e jobs linked passes breaks outcome calls =>
    refine ⟨passed, last, calls, fun call hcall => (passes call hcall).returned, ?_⟩
    rintro call hcall ⟨result, hreturned⟩
    obtain ⟨failure, hfailed⟩ := breaks.calls_failed call hcall
    cases hreturned.symm.trans hfailed

/-! ## One run -/

namespace Ran

/-- The names of the calls of a run, in order. -/
def callNames (ran : Ran) : List String := ran.calls.map (·.job.name)

/-- What the metrics list after a run of a rule. -/
structure Times (rule : Rule) (ran : Ran) : Prop where
  /-- Each name is listed once. -/
  once : ran.engine.metrics.jobs.Nodup
  /-- The listed names are those of the jobs whose handlers returned. -/
  listed : ∀ name, name ∈ ran.engine.metrics.jobs ↔
    ∃ call ∈ ran.calls, call.HasReturned ∧ call.job.name = name
  /-- They are listed in the order of their first calls. -/
  order : ran.engine.metrics.jobs.Pairwise fun name later =>
    ran.callNames.idxOf name < ran.callNames.idxOf later
  /-- A job of the rule without a call that returned is not listed, unless an earlier job has
  its name and a call that returned. -/
  missed : ∀ (i : Nat) (job : Job), rule.jobs[i]? = some job →
    (∀ call, ran.calls[i]? = some call → ¬ call.HasReturned) →
      (job.name ∈ ran.engine.metrics.jobs ↔
        ∃ j < i, ∃ call, ran.calls[j]? = some call ∧ call.HasReturned ∧ call.job.name = job.name)
  /-- The calls are those of the first jobs of the rule, and the run has one of the three
  endings. -/
  outline : ∃ s, Run.Outline ran.engine.registry rule s ran

/-- The metrics of a run list the jobs whose handlers returned. -/
theorem Reports.times {rule : Rule} {s : Session} {ran : Ran}
    (h : ran.Reports (Run.runJobs ran.engine.registry rule.shape rule.jobs s)) :
    ran.Times rule := by
  have houtline := Run.outline_of_runJobs h.outcome h.session h.calls
  obtain ⟨returned, failed, hparted⟩ := houtline.parted
  have hfirst : FirstOf (returned.map (·.job.name)) ran.engine.metrics.jobs := by
    have htimed := Report.firstOf_timed (Run.runJobs ran.engine.registry rule.shape rule.jobs s)
    rw [Report.returned, ← h.calls, hparted.filter_eq] at htimed
    rwa [h.metrics]
  have hlisted (name : String) : name ∈ ran.engine.metrics.jobs ↔
      ∃ call ∈ ran.calls, call.HasReturned ∧ call.job.name = name := by
    simp only [hfirst.mem_iff, List.mem_map, hparted.mem_returned_iff, and_assoc]
  constructor
  case once => exact hfirst.nodup
  case listed => exact hlisted
  case order =>
    have hnames : ran.callNames = returned.map (·.job.name) ++ failed.map (·.job.name) := by
      rw [callNames, hparted.append, List.map_append]
    rw [hnames]
    exact hfirst.order_append _
  case missed =>
    intro i job hjob hmissed
    rw [hlisted]
    constructor
    · rintro ⟨call, hmem, hreturned, hname⟩
      obtain ⟨j, hcall⟩ := List.mem_iff_getElem?.1 hmem
      exact ⟨j, hparted.lt_of_hasReturned hcall hreturned hmissed, call, hcall, hreturned, hname⟩
    · rintro ⟨j, -, call, hcall, hreturned, hname⟩
      exact ⟨call, List.mem_of_getElem? hcall, hreturned, hname⟩
  case outline => exact ⟨s, houtline⟩

end Ran

/-! ## Histories -/

namespace Engine

/-- The rule that an operation runs, with its run, if the operation is a run and its input is
not rejected. -/
def ruleRun? (e : Engine) (op : Operation) : Option (Rule × Ran) :=
  (e.ran? op).bind fun run => (op.reading e.reader).map fun rule => (rule, run.2)

/-- The rules that are run by operations one after the other, with their runs. -/
def ruleRuns (e : Engine) : List Operation → List (Rule × Ran)
  | [] => []
  | op :: ops => (e.ruleRun? op).toList ++ (e.perform op).engine.ruleRuns ops

theorem Runs.reports_own {e : Engine} {rule : Rule} {s : Session} {ran : Ran}
    (h : e.Runs rule s ran) :
    ran.Reports (Run.runJobs ran.engine.registry rule.shape rule.jobs s) := by
  rw [h.registry_eq]
  exact h.reports

/-- The rule that an operation runs is run on some session. -/
theorem reports_ruleRun? {e : Engine} {op : Operation} {rule : Rule} {ran : Ran}
    (h : e.ruleRun? op = some (rule, ran)) :
    ∃ s, ran.Reports (Run.runJobs ran.engine.registry rule.shape rule.jobs s) := by
  obtain ⟨run, hran, hrule⟩ := Option.bind_eq_some_iff.1 h
  obtain ⟨rule, hreading, hpair⟩ := Option.map_eq_some_iff.1 hrule
  cases hpair
  obtain ⟨input, hinput, hread⟩ := Operation.reading_eq_some_iff.1 hreading
  cases op with
  | run w _ s =>
    cases hinput
    cases hran
    exact ⟨s, (Runs.run w hread s).reports_own⟩
  | runInContext w =>
    cases hinput
    cases hran
    exact ⟨e.session, (Runs.runInContext w hread).reports_own⟩
  | runWithImports w _ s source =>
    cases hinput
    cases hran
    have himported : ((e.importFrom source none).value.reader input).value = .ok rule := hread
    have hreports := (Runs.run w himported s).reports_own
    exact ⟨s, hreports.outcome, hreports.session, hreports.calls, hreports.metrics⟩
  | read | register | importFrom | connect | disconnect | configure | setContext | setReader =>
    cases hran

/-- The metrics of every rule that is run list the jobs whose handlers returned. -/
theorem times_ruleRuns (e : Engine) (ops : List Operation) :
    ∀ run ∈ e.ruleRuns ops, run.2.Times run.1 := by
  induction ops generalizing e with
  | nil => exact nofun
  | cons op ops ih =>
    refine List.forall_mem_append.2 ⟨?_, ih (e.perform op).engine⟩
    intro run hrun
    obtain ⟨s, hreports⟩ := reports_ruleRun? (Option.mem_toList.1 hrun)
    exact hreports.times

/-- A run of an input leaves metrics of its own, unless the input is rejected. -/
theorem metrics_run (w : Surroundings) (e : Engine) (input : RuleInput) (s : Session) :
    (e.run w input s).engine.metrics =
      ((e.reader input).value.toOption.map fun _ => (e.run w input s).engine.metrics).getD
        e.metrics := by
  cases h : (e.reader input).value with
  | error error =>
    rw [run_of_rejected h]
    rfl
  | ok rule => rfl

/-- An operation leaves the metrics of the rule that it runs, if it does, and otherwise those
that were there. -/
theorem metrics_perform (e : Engine) (op : Operation) :
    (e.perform op).engine.metrics =
      ((e.ruleRun? op).map (·.2.engine.metrics)).getD e.metrics := by
  cases op with
  | configure w config =>
    simp only [perform, withConfig]
    split <;> rfl
  | read input =>
    simp only [perform, read]
    split <;> rfl
  | run w input s =>
    simp only [ruleRun?, ran?, Option.bind_some, Option.map_map]
    exact metrics_run w e input s
  | runInContext w input =>
    simp only [ruleRun?, ran?, Option.bind_some, Option.map_map]
    exact metrics_run w e input e.session
  | runWithImports w input s source =>
    simp only [ruleRun?, ran?, Option.bind_some, Option.map_map]
    exact metrics_run w (e.importFrom source none).value input s
  | register | importFrom | connect | disconnect | setContext | setReader => rfl

/-- The metrics of an engine are those of the latest run of a rule. -/
theorem metrics_performAll (e : Engine) (ops : List Operation) :
    (e.performAll ops).engine.metrics =
      ((e.ruleRuns ops).getLast?.map (·.2.engine.metrics)).getD e.metrics := by
  induction ops generalizing e with
  | nil => rfl
  | cons op ops ih =>
    have hmetrics : (e.performAll (op :: ops)).engine.metrics = _ := ih (e.perform op).engine
    rw [hmetrics, metrics_perform, ruleRuns, List.getLast?_append]
    cases ((e.perform op).engine.ruleRuns ops).getLast? <;> cases e.ruleRun? op <;> rfl

/-- **The metrics are those of the latest run.**  Over any history of an engine, each run of a
rule that is read, however it ends, leaves metrics that list the jobs of this run whose handlers
returned; and they are kept until the next such run, rejected inputs or not. -/
theorem performAll_metrics (e : Engine) (ops : List Operation) :
    (∀ run ∈ e.ruleRuns ops, run.2.Times run.1) ∧
      (e.performAll ops).engine.metrics =
        ((e.ruleRuns ops).getLast?.map (·.2.engine.metrics)).getD e.metrics :=
  ⟨times_ruleRuns e ops, metrics_performAll e ops⟩

/-- A run that completes, one that breaks at its third job, and an input that is rejected. -/
theorem performAll_metrics_echoAndSeek :
    let e : Engine := { Engine.new .terse with registry := Run.echoAndSeek }
    let w : Surroundings := ⟨"20250101", "12:00:00", fun _ => true, fun _ => true⟩
    let rule : GroupedRule := ⟨[Run.echoJob, Run.echoJob], [Run.seekJob, Run.echoJob]⟩
    let ops : List Operation :=
      [.run w (.jobs []) .empty, .runInContext w (.grouped rule), .run w (.value .null) .empty]
    (e.ruleRuns ops).map (·.2.engine.metrics.jobs) = [[], ["echo"]] ∧
      (e.performAll ops).engine.metrics = ⟨["echo"], false⟩ ∧
      ∀ run ∈ e.ruleRuns ops, run.2.Times run.1 := by
  intro e w rule ops
  exact ⟨by rfl, by rfl, (performAll_metrics e ops).1⟩

end Engine

end RuleEngine
