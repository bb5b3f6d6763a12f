import RuleEngine.Proofs.Run.Meaning

/-!
# RuleEngine.Proofs.Run.Lifecycle

The events of a run, and who is told of them.

1. `Told` says what is told of jobs that return: each is announced on the session it
   is called on, and directly afterwards it is told to have returned, on the session
   in which its result is recorded.
2. `Trace` says what is told of a whole run, for a run that ended and for one that
   broke; it is read off the course of the run (`runJobs_course`), and `Lifecycle` is
   read off the trace.
3. `Signals.seenOf_deliver` — every observer is told the events of its hook point, all
   of them and in order, whatever else is connected.
-/

namespace RuleEngine

/-! ## Events -/

/-- The events among happenings, in order. -/
def eventsOf (happenings : List Happening) : List Event :=
  happenings.filterMap fun
    | .event e => some e
    | .notice _ => none

@[simp] theorem eventsOf_nil : eventsOf [] = [] := rfl

@[simp] theorem eventsOf_event (e : Event) (rest : List Happening) :
    eventsOf (.event e :: rest) = e :: eventsOf rest := rfl

@[simp] theorem eventsOf_notice (n : Notice) (rest : List Happening) :
    eventsOf (.notice n :: rest) = eventsOf rest := rfl

@[simp] theorem eventsOf_append (hs others : List Happening) :
    eventsOf (hs ++ others) = eventsOf hs ++ eventsOf others :=
  List.filterMap_append ..

@[simp] theorem eventsOf_map_notice (notices : List Notice) :
    eventsOf (notices.map .notice) = [] := by
  induction notices with
  | nil => rfl
  | cons n notices ih => exact ih

theorem Report.events_eq (report : Report) : report.events = eventsOf report.happenings := rfl

namespace Call

variable {call : Call}

/-- The events of a call that returned. -/
theorem eventsOf_happenings_of_returned {result : Value} (h : call.Returned result) :
    eventsOf call.happenings =
      [.preJob call.job call.before, .postJob call.job call.after result] := by
  simp only [Returned] at h
  simp [happenings, h]

/-- The events of a call whose handler failed. -/
theorem eventsOf_happenings_of_failed {failure : Failure}
    (h : call.reply.result = .error failure) :
    eventsOf call.happenings = [.preJob call.job call.before] := by
  simp [happenings, h]

end Call

theorem Report.eventsOf_foldr_after (calls : List Call) (last : Report) :
    eventsOf (calls.foldr Report.after last).happenings =
      calls.flatMap (fun call => eventsOf call.happenings) ++ eventsOf last.happenings := by
  induction calls with
  | nil => rfl
  | cons call calls ih => simp [Report.after, ih]

/-- The events of running a rule that an input is read as; none when it is read as no
rule. -/
def Engine.events (e : Engine) (input : RuleInput) (s : Session) : List Event :=
  match (e.reader input).value with
  | .ok rule => (Run.run e.registry rule s).events
  | .error _ => []

/-- What happens when a rule is run that an input is read as. -/
def Engine.happenings (e : Engine) (input : RuleInput) (s : Session) : List Happening :=
  (e.reader input).value.toOption.elim [] fun rule => (Run.run e.registry rule s).happenings

theorem Engine.events_eq (e : Engine) (input : RuleInput) (s : Session) :
    e.events input s = eventsOf (e.happenings input s) := by
  rw [events, happenings]
  cases (e.reader input).value <;> rfl

/-- A run tells what the reader tells, and then what happens takes effect. -/
theorem Engine.run_delivers (w : Surroundings) (e : Engine) (input : RuleInput) (s : Session) :
    (e.run w input s).engine.signals = (e.signals.deliver w (e.happenings input s)).1 ∧
      (e.run w input s).effects =
        (e.reader input).notices.map .notice ++
          (e.signals.deliver w (e.happenings input s)).2 := by
  cases h : (e.reader input).value with
  | error error =>
    rw [run_of_rejected h, happenings, h]
    exact ⟨rfl, (List.append_nil _).symm⟩
  | ok rule =>
    simp only [run, read, execute, happenings, h]
    exact ⟨rfl, rfl⟩

/-! ## What is told of a run -/

namespace Run

/-- What is told of jobs that return, one after the other. -/
inductive Told : List Call → List Event → Prop
  | nil : Told [] []
  | cons {call : Call} {calls : List Call} {result : Value} {events : List Event}
    (records : call.Records result) (rest : Told calls events) :
    Told (call :: calls)
      (.preJob call.job call.before :: .postJob call.job call.after result :: events)

theorem Told.append {calls others : List Call} {events more : List Event} (h : Told calls events)
    (h' : Told others more) : Told (calls ++ others) (events ++ more) := by
  induction h with
  | nil => exact h'
  | cons records _ ih => exact .cons records ih

theorem told_of_returned {calls : List Call} (h : ∀ call ∈ calls, ∃ result, call.Returned result) :
    Told calls (calls.flatMap fun call => eventsOf call.happenings) := by
  induction calls with
  | nil => exact .nil
  | cons call calls ih =>
    obtain ⟨⟨result, hresult⟩, hcalls⟩ := List.forall_mem_cons.1 h
    rw [List.flatMap_cons, Call.eventsOf_happenings_of_returned hresult]
    exact .cons hresult.records (ih hcalls)

/-- The events of a run of a rule on a session. -/
inductive Trace (registry : Registry) (rule : Rule) (s : Session) (ran : Ran) : List Event → Prop
  /-- A run that ends: its jobs are told one after the other and then its end, on the
  session that is left to the caller. -/
  | ended {events : List Event} {completed : Bool} (outcome : ran.outcome = .ok completed)
    (jobs : ran.calls.map Call.job <+: rule.jobs) (linked : Linked s ran.calls ran.session)
    (told : Told ran.calls events) :
    Trace registry rule s ran
      (.preRun rule.jobs s :: (events ++ [.postRun rule.jobs ran.session completed]))
  /-- A run that breaks: the job that breaks it is announced, and nothing after that. -/
  | broken {events : List Event} {returned failed : List Call} {job : Job} {left : List Job}
    {middle : Session} {error : Error} (outcome : ran.outcome = .error error)
    (jobs : rule.jobs = returned.map Call.job ++ job :: left)
    (calls : ran.calls = returned ++ failed) (linked : Linked s returned middle)
    (told : Told returned events) (breaks : Breaks registry middle job error failed ran.session) :
    Trace registry rule s ran (.preRun rule.jobs s :: (events ++ [.preJob job middle]))

/-- An end without an error tells of the call that stopped the run, if one did. -/
theorem Ends.told {registry : Registry} {shape : Shape} {s : Session} {left : List Job}
    {last : Report} (h : Ends registry shape s left last) {completed : Bool}
    (houtcome : last.outcome = .ok completed) : Told last.calls (eventsOf last.happenings) := by
  cases h with
  | completed => exact .nil
  | unknown | unbound | failed => cases houtcome
  | stopped genuine before stopping =>
    obtain ⟨result, hresult, -⟩ := stopping
    simp only [Report.after, eventsOf_append, Call.eventsOf_happenings_of_returned hresult]
    exact .cons hresult.records .nil

/-- An end with an error tells that the next job is reached. -/
theorem Ends.announced {registry : Registry} {shape : Shape} {s : Session} {job : Job}
    {left : List Job} {last : Report} (h : Ends registry shape s (job :: left) last)
    {error : Error} (houtcome : last.outcome = .error error) :
    eventsOf last.happenings = [.preJob job s] := by
  cases h with
  | unknown | unbound => rfl
  | failed genuine before failed =>
    subst before
    simp [Report.after, Call.eventsOf_happenings_of_failed failed]
  | stopped => cases houtcome

/-- What is told of the end of a run. -/
theorem eventsOf_ending (rule : Rule) (report : Report) :
    eventsOf (ending rule report) =
      match report.outcome with
      | .ok completed => [.postRun rule.jobs report.session completed]
      | .error _ => [] := by
  cases h : report.outcome <;> simp [ending, h]

end Run

theorem Engine.events_of_read {e : Engine} {input : RuleInput} {rule : Rule}
    (h : (e.reader input).value = .ok rule) (s : Session) :
    e.events input s = .preRun rule.jobs s ::
      (eventsOf (Run.runJobs e.registry rule.shape rule.jobs s).happenings ++
        eventsOf (Run.ending rule (Run.runJobs e.registry rule.shape rule.jobs s))) := by
  simp only [events, h, Report.events_eq, Run.run, eventsOf_notice, eventsOf_event,
    eventsOf_append]

/-- The events of every run are those of a run that ended or of a run that broke. -/
theorem Engine.run_trace {e : Engine} {input : RuleInput} {rule : Rule}
    (hread : (e.reader input).value = .ok rule) (w : Surroundings) (s : Session) :
    Run.Trace e.registry rule s (e.run w input s) (e.events input s) := by
  obtain ⟨houtcome, hsession, hcalls⟩ := run_of_read hread w s
  obtain ⟨passed, left, middle, last, hjobs, linked, hpassed, ends, hrun⟩ :=
    Run.runJobs_course e.registry rule.shape rule.jobs s
  have htold := Run.told_of_returned fun call hcall => (hpassed call hcall).returned
  have houtline := run_outline hread w s
  rw [hrun, Report.outcome_foldr_after] at houtcome
  rw [hrun, Report.calls_foldr_after] at hcalls
  rw [events_of_read hread, hrun, Report.eventsOf_foldr_after, Run.eventsOf_ending,
    Report.outcome_foldr_after, ← hrun, ← hsession]
  cases hlast : last.outcome with
  | ok completed =>
    exact .ended (houtcome.trans hlast) houtline.jobs_prefix houtline.linked
      (hcalls ▸ htold.append (ends.told hlast))
  | error error =>
    rw [hrun, Report.session_foldr_after] at hsession
    obtain ⟨rfl, hok, -⟩ | ⟨_, _, rfl, _, _, _, hok, -⟩ | ⟨job, jobs, error', rfl, herror, hbreaks⟩ :=
      ends.cases_sorts
    · cases hlast.symm.trans hok
    · cases hlast.symm.trans hok
    · obtain rfl : error = error' := Except.error.inj (hlast.symm.trans herror)
      rw [ends.announced hlast, List.append_nil]
      exact .broken (houtcome.trans hlast) hjobs hcalls linked htold (hsession ▸ hbreaks)

/-! ## Lifecycle -/

namespace Run

namespace Told

variable {calls : List Call} {events : List Event}

theorem postRun_notMem (h : Told calls events) (jobs : List Job) (t : Session) (b : Bool) :
    Event.postRun jobs t b ∉ events := by
  induction h with
  | nil => simp
  | cons _ _ ih => simp [ih]

theorem length_filter_postJob (h : Told calls events) :
    (events.filter (·.point = .postJob)).length = calls.length := by
  induction h with
  | nil => rfl
  | cons _ _ ih => simp [ih]

theorem filter_returned (h : Told calls events) :
    calls.filter (·.result?.isSome) = calls := by
  induction h with
  | nil => rfl
  | @cons call calls result events records _ ih =>
    have hresult : call.reply.result = .ok result := records.returned
    rw [List.filter_cons_of_pos (by simp [Call.result?, hresult, Except.toOption]), ih]

/-- Whenever a job is told to have returned, its entry is the last of the results. -/
theorem getLast?_results (h : Told calls events) {job : Job} {t : Session} {result : Value}
    (hmem : .postJob job t result ∈ events) :
    t.results.getLast? = some (.obj [("job", .str job.name), ("return", result)]) := by
  induction h with
  | nil => cases hmem
  | @cons call calls result' events records _ ih =>
    simp only [List.mem_cons, reduceCtorEq, Event.postJob.injEq, false_or] at hmem
    obtain ⟨rfl, rfl, rfl⟩ | hmem := hmem
    · rw [records.results, List.getLast?_concat]
    · exact ih hmem

end Told

/-- A job that breaks a run is not recorded. -/
theorem Breaks.filter_returned {registry : Registry} {s t : Session} {job : Job} {e : Error}
    {calls : List Call} (h : Breaks registry s job e calls t) :
    calls.filter (·.result?.isSome) = [] := by
  rw [List.filter_eq_nil_iff]
  intro call hcall
  obtain ⟨failure, hfailed⟩ := h.calls_failed call hcall
  simp [Call.result?, hfailed, Except.toOption]

/-- The lifecycle of a run of a rule on a session, as its events tell it. -/
structure Lifecycle (registry : Registry) (rule : Rule) (s : Session) (ran : Ran)
    (events : List Event) : Prop where
  /-- The calls are those of the registered handlers, with the arguments bound. -/
  genuine : ∀ call ∈ ran.calls, call.Genuine registry
  /-- The events come one after the other as in a run that ends or in one that breaks. -/
  trace : Trace registry rule s ran events
  /-- An end is told exactly when the run has no error, and with its outcome. -/
  ended : ∀ completed, ran.outcome = .ok completed ↔
    ∃ jobs t, .postRun jobs t completed ∈ events
  /-- There is one return told for each call that returned, and was recorded. -/
  counted : (events.filter (·.point = .postJob)).length =
    (ran.calls.filter (·.result?.isSome)).length
  /-- Whenever a return is told, its entry is the last of the results. -/
  recorded : ∀ job t result, .postJob job t result ∈ events →
    t.results.getLast? = some (.obj [("job", .str job.name), ("return", result)])

theorem Trace.lifecycle {registry : Registry} {rule : Rule} {s : Session} {ran : Ran}
    {events : List Event} (h : Trace registry rule s ran events)
    (hgenuine : ∀ call ∈ ran.calls, call.Genuine registry) :
    Lifecycle registry rule s ran events where
  genuine := hgenuine
  trace := h
  ended completed := by
    cases h with
    | ended outcome _ _ told =>
      simp [outcome, told.postRun_notMem, eq_comm]
    | broken outcome _ _ _ told _ => simp [outcome, told.postRun_notMem]
  counted := by
    cases h with
    | ended _ _ _ told =>
      simp [List.filter_append, told.length_filter_postJob, told.filter_returned]
    | broken _ _ calls _ told breaks =>
      simp [List.filter_append, told.length_filter_postJob, told.filter_returned, calls,
        breaks.filter_returned]
  recorded job t result hmem := by
    cases h with
    | ended _ _ _ told => exact told.getLast?_results (by simpa using hmem)
    | broken _ _ _ _ told _ => exact told.getLast?_results (by simpa using hmem)

end Run

/-! ## Who is told -/

/-- What an observer takes note of: its name and the event. -/
def Effect.seen? : Effect → Option (String × Event)
  | .seen observer event => some (observer, event)
  | .append .. | .notice _ => none

/-- What observers take note of, in order. -/
def seenOf (effects : List Effect) : List (String × Event) := effects.filterMap Effect.seen?

/-- The name of a receiver that is an observer. -/
def Receiver.observer? : Receiver → Option String
  | .observer name => some name
  | .runLog _ => none

/-- The observers at a hook point, in the order in which they were connected. -/
def Signals.observers (signals : Signals Receiver) (point : HookPoint) : List String :=
  (signals.get point).receivers.filterMap fun r => r.2.observer?

@[simp] theorem seenOf_append (effects others : List Effect) :
    seenOf (effects ++ others) = seenOf effects ++ seenOf others :=
  List.filterMap_append ..

@[simp] theorem seenOf_map_notice (notices : List Notice) :
    seenOf (notices.map Effect.notice) = [] := by
  induction notices with
  | nil => rfl
  | cons n notices ih => exact ih

/-- A run log makes no observer take note of anything. -/
theorem RunLog.seenOf_onEvent (w : Surroundings) (log : RunLog) (event : Event) :
    seenOf (log.onEvent w event).2 = [] := by
  obtain h | h | ⟨file, line, h⟩ := log.onEvent_cases w event <;> rw [h] <;> rfl

namespace Receiver

variable (w : Surroundings) (receiver : Receiver) (event : Event)

theorem observer?_react : (receiver.react w event).1.observer? = receiver.observer? := by
  cases receiver <;> rfl

theorem seenOf_react :
    seenOf (receiver.react w event).2 = receiver.observer?.toList.map (·, event) := by
  cases receiver with
  | observer name => rfl
  | runLog log => exact log.seenOf_onEvent w event

end Receiver

namespace Signals

theorem observers_reactAll (w : Surroundings) (event : Event) (receivers : List (Nat × Receiver)) :
    (Signal.reactAll (Receiver.react w) event receivers).1.filterMap (·.2.observer?) =
      receivers.filterMap (·.2.observer?) := by
  induction receivers with
  | nil => rfl
  | cons first receivers ih =>
    simp only [Signal.reactAll, List.filterMap_cons, Receiver.observer?_react, ih]

theorem seenOf_reactAll (w : Surroundings) (event : Event) (receivers : List (Nat × Receiver)) :
    seenOf (Signal.reactAll (Receiver.react w) event receivers).2 =
      (receivers.filterMap (·.2.observer?)).map (·, event) := by
  induction receivers with
  | nil => rfl
  | cons first receivers ih =>
    simp only [Signal.reactAll, seenOf_append, Receiver.seenOf_react, ih, List.filterMap_cons]
    cases first.2.observer? <;> rfl

/-- Sending an event makes no observer of any hook point come or go. -/
theorem observers_send (w : Surroundings) (signals : Signals Receiver) (event : Event)
    (point : HookPoint) :
    (signals.send (Receiver.react w) event).1.observers point = signals.observers point := by
  by_cases h : point = event.point
  · subst h
    simp only [observers, get_send_self, Signal.send]
    exact observers_reactAll w event _
  · rw [observers, get_send_of_ne _ _ h, observers]

/-- Every observer is told the events of its hook point, in order. -/
theorem seenOf_deliver (w : Surroundings) (signals : Signals Receiver)
    (happenings : List Happening) :
    seenOf (signals.deliver w happenings).2 =
      (eventsOf happenings).flatMap fun event =>
        (signals.observers event.point).map (·, event) := by
  induction happenings generalizing signals with
  | nil => rfl
  | cons first happenings ih =>
    cases first with
    | notice n => exact ih signals
    | event event =>
      have hsent : seenOf (signals.send (Receiver.react w) event).2 =
          (signals.observers event.point).map (·, event) := seenOf_reactAll ..
      simp only [deliver, seenOf_append, hsent, ih, observers_send, eventsOf_event,
        List.flatMap_cons]

end Signals

/-! ## The protocol -/

/-- Every observer takes note of the events of its hook point, in order. -/
theorem Engine.seenOf_run (w : Surroundings) (e : Engine) (input : RuleInput) (s : Session) :
    seenOf (e.run w input s).effects =
      (e.events input s).flatMap fun event =>
        (e.signals.observers event.point).map (·, event) := by
  rw [(run_delivers w e input s).2, seenOf_append, seenOf_map_notice, List.nil_append,
    Signals.seenOf_deliver, events_eq]

/-- **The lifecycle protocol.**  An input that is read as no rule has no events; the
events of every other run are those of its lifecycle; and they are what observers are
told. -/
theorem Engine.run_lifecycle (w : Surroundings) (e : Engine) (input : RuleInput) (s : Session) :
    (∀ error, (e.reader input).value = .error error → e.events input s = []) ∧
      (∀ rule, (e.reader input).value = .ok rule →
        Run.Lifecycle e.registry rule s (e.run w input s) (e.events input s)) ∧
      seenOf (e.run w input s).effects =
        (e.events input s).flatMap fun event =>
          (e.signals.observers event.point).map (·, event) := by
  refine ⟨?_, ?_, seenOf_run w e input s⟩
  · intro error hread
    simp only [events, hread]
  · intro rule hread
    exact (run_trace hread w s).lifecycle (run_outline hread w s).genuine

/-- A run that breaks at its second job, with an observer of the jobs that return. -/
theorem Engine.run_lifecycle_seek :
    let e : Engine :=
      { Engine.new .terse with
        registry := Run.echoAndSeek
        signals := (Signals.empty.connect .postJob (.observer "o")).2 }
    let w : Surroundings := ⟨"20250101", "12:00:00", fun _ => true, fun _ => true⟩
    let input : RuleInput := .jobs [Run.echoJob, Run.seekJob]
    (e.reader input).value = .ok ⟨[Run.echoJob, Run.seekJob], .flat⟩ ∧
      (e.events input .empty).map Event.point = [.preRun, .preJob, .postJob, .preJob] ∧
      seenOf (e.run w input .empty).effects =
        [("o", .postJob Run.echoJob
          ⟨[("results", .arr [.obj [("job", .str "echo"), ("return", .bool true)]])]⟩
          (.bool true))] ∧
      Run.Lifecycle e.registry ⟨[Run.echoJob, Run.seekJob], .flat⟩ .empty
        (e.run w input .empty) (e.events input .empty) :=
  ⟨rfl, by rfl, by rfl, (run_lifecycle _ _ _ _).2.1 _ rfl⟩

end RuleEngine
