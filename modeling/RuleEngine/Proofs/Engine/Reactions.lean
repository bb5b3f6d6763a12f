import RuleEngine.Proofs.Engine.Insertions
import RuleEngine.Proofs.Run.Lifecycle

/-!
# RuleEngine.Proofs.Engine.Reactions

How receivers react to a run, and what its run logs do about it.

1. `Signals.announce` tells events, and nothing else.  What happens in a run takes effect as
   its events are announced and its notices are told (`Signals.deliver_announce`).
2. `RunLog.follow` — a run log reacts to events, one after the other, and each of the run logs
   does so on its own (`Signals.runLogs_announce`, `Signals.filterMap_announce`).
3. Of the events of a run, only its end is logged, and a run that breaks has none
   (`Run.Trace.follow`), so that a run is logged as its outcome says (`Ran.logged`).
4. A run has no effects but what is told and the reactions to its events
   (`Engine.effects_run`).  It leaves each run log as this one logs the run
   (`Engine.runLogs_run`), and nothing else is appended to files (`Engine.appendsOf_run_logged`).
-/

namespace RuleEngine

/-! ## What is appended -/

/-- What an effect appends to a file: the file and the text. -/
def Effect.appended? : Effect → Option (String × String)
  | .append file text => some (file, text)
  | .seen .. | .notice _ => none

/-- What effects append to files, in order. -/
def appendsOf (effects : List Effect) : List (String × String) :=
  effects.filterMap Effect.appended?

@[simp] theorem appendsOf_append (effects others : List Effect) :
    appendsOf (effects ++ others) = appendsOf effects ++ appendsOf others :=
  List.filterMap_append ..

@[simp] theorem appendsOf_map_notice (notices : List Notice) :
    appendsOf (notices.map Effect.notice) = [] := by
  induction notices with
  | nil => rfl
  | cons n notices ih => exact ih

/-! ## Receivers -/

/-- The run log that a receiver is, if it is one. -/
def Receiver.runLog? : Receiver → Option RunLog
  | .observer _ => none
  | .runLog log => some log

/-- The run logs among receivers, with the identities of their connections. -/
def runLogsOf (receivers : List (Nat × Receiver)) : List (Nat × RunLog) :=
  receivers.filterMap fun r => r.2.runLog?.map (r.1, ·)

theorem runLogsOf_append (receivers others : List (Nat × Receiver)) :
    runLogsOf (receivers ++ others) = runLogsOf receivers ++ runLogsOf others :=
  List.filterMap_append ..

/-- The run logs that are left when a connection is ended. -/
theorem runLogsOf_filter (id : Nat) (receivers : List (Nat × Receiver)) :
    runLogsOf (receivers.filter fun r => r.1 ≠ id) =
      (runLogsOf receivers).filter fun r => r.1 ≠ id := by
  simp only [runLogsOf, List.filterMap_filter, List.filter_filterMap]
  refine List.filterMap_congr fun r _ => ?_
  cases r.2 with
  | observer name => simp [Receiver.runLog?]
  | runLog log => by_cases h : r.1 = id <;> simp [Receiver.runLog?, Option.filter, h]

/-- The run logs at every hook point react to the ends of runs only. -/
theorem RunLog.onEvent_of_ne {event : Event} (h : event.point ≠ .postRun) (w : Surroundings)
    (log : RunLog) : log.onEvent w event = (log, []) := by
  cases event with
  | postRun => exact absurd rfl h
  | preRun | preJob | postJob => rfl

namespace Signals

/-- The run logs that are told of the ends of runs, in the order in which they were
connected. -/
def runLogs (signals : Signals Receiver) : List (Nat × RunLog) :=
  runLogsOf (signals.get .postRun).receivers

section

variable {β : Type} {view : Effect → Option β} (w : Surroundings) (event : Event)

theorem runLogsOf_reactAll (receivers : List (Nat × Receiver)) :
    runLogsOf (Signal.reactAll (Receiver.react w) event receivers).1 =
      (runLogsOf receivers).map fun r => (r.1, (r.2.onEvent w event).1) := by
  induction receivers with
  | nil => rfl
  | cons first receivers ih =>
    obtain ⟨id, receiver⟩ := first
    cases receiver with
    | observer name => exact ih
    | runLog log => exact congrArg _ ih

/-- What is left of reactions in a view that leaves out what observers take note of. -/
theorem filterMap_reactAll (hview : ∀ name seen, view (.seen name seen) = none)
    (receivers : List (Nat × Receiver)) :
    (Signal.reactAll (Receiver.react w) event receivers).2.filterMap view =
      (runLogsOf receivers).flatMap fun r => (r.2.onEvent w event).2.filterMap view := by
  induction receivers with
  | nil => rfl
  | cons first receivers ih =>
    obtain ⟨id, receiver⟩ := first
    cases receiver with
    | observer name => exact (List.filterMap_cons_none (hview name event)).trans ih
    | runLog log => exact (List.filterMap_append ..).trans (congrArg _ ih)

/-- An event lets the run logs react to it, one after the other. -/
theorem runLogs_send (signals : Signals Receiver) :
    (signals.send (Receiver.react w) event).1.runLogs =
      signals.runLogs.map fun r => (r.1, (r.2.onEvent w event).1) := by
  by_cases h : event.point = .postRun
  · have hsend := signals.get_send_self (Receiver.react w) event
    rw [h] at hsend
    rw [runLogs, hsend]
    exact runLogsOf_reactAll w event _
  · have hreact (r : Nat × RunLog) : (r.1, (r.2.onEvent w event).1) = r := by
      rw [RunLog.onEvent_of_ne h]
    simp only [runLogs, get_send_of_ne _ _ (Ne.symm h), hreact, List.map_id']

theorem filterMap_send (hview : ∀ name seen, view (.seen name seen) = none)
    (signals : Signals Receiver) :
    (signals.send (Receiver.react w) event).2.filterMap view =
      signals.runLogs.flatMap fun r => (r.2.onEvent w event).2.filterMap view := by
  have hsend : (signals.send (Receiver.react w) event).2.filterMap view = _ :=
    filterMap_reactAll w event hview (signals.get event.point).receivers
  by_cases h : event.point = .postRun
  · rw [hsend, h]
    rfl
  · -- at the other hook points run logs do nothing
    have hnone (r : Nat × RunLog) : (r.2.onEvent w event).2.filterMap view = [] := by
      rw [RunLog.onEvent_of_ne h]
      rfl
    rw [hsend, List.flatMap_eq_nil_iff.2 fun r _ => hnone r,
      List.flatMap_eq_nil_iff.2 fun r _ => hnone r]

end

/-- A configuration with a log directory connects one run log more. -/
theorem runLogs_connect_runLog (signals : Signals Receiver) (log : RunLog) :
    (signals.connect .postRun (.runLog log)).2.runLogs =
      signals.runLogs ++ [((signals.get .postRun).next, log)] := by
  rw [runLogs, get_connect_self]
  exact runLogsOf_append ..

theorem runLogs_connect_observer (signals : Signals Receiver) (point : HookPoint)
    (name : String) : (signals.connect point (.observer name)).2.runLogs = signals.runLogs := by
  by_cases h : point = .postRun
  · subst h
    rw [runLogs, get_connect_self]
    exact (runLogsOf_append ..).trans (List.append_nil _)
  · simp only [runLogs, get_connect_of_ne _ _ (Ne.symm h)]

/-- A run log stays connected until its own connection is ended. -/
theorem runLogs_disconnect {signals : Signals Receiver} {own : Nat} {log : RunLog}
    (hlogs : signals.runLogs = [(own, log)]) {point : HookPoint} {id : Nat}
    (h : point ≠ .postRun ∨ id ≠ own) :
    (signals.disconnect point id).2.runLogs = [(own, log)] := by
  by_cases hpoint : point = .postRun
  · have hown : own ≠ id := Ne.symm (h.resolve_left (not_not_intro hpoint))
    subst hpoint
    have hleft : (signals.disconnect .postRun id).2.runLogs =
        signals.runLogs.filter fun r => r.1 ≠ id := by
      rw [runLogs, get_disconnect_self]
      exact runLogsOf_filter id _
    rw [hleft, hlogs]
    simp [hown]
  · simp only [runLogs, get_disconnect_of_ne _ _ (Ne.symm hpoint)]
    exact hlogs

end Signals

/-! ## Following runs -/

namespace RunLog

/-- Lets a run log react to events, one after the other. -/
def follow (w : Surroundings) (log : RunLog) : List Event → RunLog × List Effect
  | [] => (log, [])
  | event :: events =>
    let (log, effects) := log.onEvent w event
    let (log, others) := follow w log events
    (log, effects ++ others)

theorem follow_of_ne {events : List Event} (h : ∀ event ∈ events, event.point ≠ .postRun)
    (w : Surroundings) (log : RunLog) (others : List Event) :
    log.follow w (events ++ others) = log.follow w others := by
  induction events with
  | nil => rfl
  | cons event events ih =>
    obtain ⟨hevent, hevents⟩ := List.forall_mem_cons.1 h
    rw [List.cons_append, follow, onEvent_of_ne hevent]
    exact ih hevents

theorem follow_self {events : List Event} (h : ∀ event ∈ events, event.point ≠ .postRun)
    (w : Surroundings) (log : RunLog) : log.follow w events = (log, []) := by
  have hfollow := follow_of_ne h w log []
  rwa [List.append_nil] at hfollow

end RunLog

namespace Signals

/-- Tells events to their receivers, in order. -/
def announce (w : Surroundings) (signals : Signals Receiver) (events : List Event) :
    Signals Receiver × List Effect :=
  signals.deliver w (events.map .event)

theorem announce_cons (w : Surroundings) (signals : Signals Receiver) (event : Event)
    (events : List Event) :
    signals.announce w (event :: events) =
      let sent := signals.send (Receiver.react w) event
      ((sent.1.announce w events).1, sent.2 ++ (sent.1.announce w events).2) := rfl

/-- What happens takes effect as its events are announced and its notices are told. -/
theorem deliver_announce (w : Surroundings) (signals : Signals Receiver)
    (happenings : List Happening) :
    (signals.deliver w happenings).1 = (signals.announce w (eventsOf happenings)).1 ∧
      (signals.deliver w happenings).2.Perm
        ((noticesIn happenings).map .notice ++
          (signals.announce w (eventsOf happenings)).2) := by
  induction happenings generalizing signals with
  | nil => exact ⟨rfl, .refl _⟩
  | cons first happenings ih =>
    cases first with
    | notice n =>
      obtain ⟨hsignals, heffects⟩ := ih signals
      exact ⟨hsignals, heffects.cons _⟩
    | event event =>
      obtain ⟨hsignals, heffects⟩ := ih (signals.send (Receiver.react w) event).1
      refine ⟨hsignals, ?_⟩
      rw [eventsOf_event, noticesIn_event, announce_cons]
      -- the notices that follow come in front of the reactions to this event
      exact (heffects.append_left _).trans (List.perm_append_comm_assoc ..)

/-- Notices append nothing. -/
theorem appendsOf_deliver (w : Surroundings) (signals : Signals Receiver)
    (happenings : List Happening) :
    appendsOf (signals.deliver w happenings).2 =
      appendsOf (signals.announce w (eventsOf happenings)).2 := by
  induction happenings generalizing signals with
  | nil => rfl
  | cons first happenings ih =>
    cases first with
    | notice n => exact ih signals
    | event event => simp only [deliver, eventsOf_event, announce_cons, appendsOf_append, ih]

variable {β : Type} {view : Effect → Option β} (w : Surroundings)

/-- Each run log follows the events that are announced. -/
theorem runLogs_announce (signals : Signals Receiver) (events : List Event) :
    (signals.announce w events).1.runLogs =
      signals.runLogs.map fun r => (r.1, (r.2.follow w events).1) := by
  induction events generalizing signals with
  | nil => exact (List.map_id' _).symm
  | cons event events ih =>
    simp only [announce_cons, ih, runLogs_send, List.map_map]
    rfl

/-- What run logs do about events of which at most one is the end of a run, in a view that
leaves out what observers take note of. -/
theorem filterMap_announce (hview : ∀ name seen, view (.seen name seen) = none)
    (signals : Signals Receiver) {events : List Event}
    (hends : events.countP (·.point = .postRun) ≤ 1) :
    (signals.announce w events).2.filterMap view =
      signals.runLogs.flatMap fun r => (r.2.follow w events).2.filterMap view := by
  induction events generalizing signals with
  | nil => exact (List.flatMap_eq_nil_iff.2 fun r _ => rfl).symm
  | cons event events ih =>
    have hrest : events.countP (·.point = .postRun) ≤ 1 :=
      ((List.sublist_cons_self ..).countP_le).trans hends
    rw [announce_cons, List.filterMap_append, filterMap_send w event hview, ih _ hrest,
      runLogs_send, List.flatMap_map]
    by_cases hevent : event.point = .postRun
    · -- nothing is logged after the end
      have hothers : ∀ other ∈ events, other.point ≠ .postRun := by
        simpa [hevent, List.countP_eq_zero] using hends
      simp [RunLog.follow, RunLog.follow_self hothers]
    · simp [RunLog.follow, RunLog.onEvent_of_ne hevent]

end Signals

/-- What a run log does about a run: it logs the end, if there is one. -/
def Ran.logged (w : Surroundings) (log : RunLog) (ran : Ran) : RunLog × List Effect :=
  match ran.outcome with
  | .ok completed => log.logRun w ran.engine.rule ran.session.results completed
  | .error _ => (log, [])

namespace Run

theorem Told.point_ne {calls : List Call} {events : List Event} (h : Told calls events) :
    ∀ event ∈ events, event.point ≠ .postRun := by
  intro event hmem heq
  cases event with
  | postRun jobs t b => exact h.postRun_notMem jobs t b hmem
  | preRun | preJob | postJob => cases heq

/-- What is told of a run before its end is not logged. -/
theorem Told.follow {calls : List Call} {events : List Event} (h : Told calls events)
    (w : Surroundings) (log : RunLog) (rule : List Job) (s : Session) (others : List Event) :
    log.follow w (.preRun rule s :: (events ++ others)) = log.follow w others := by
  have hfront : ∀ event ∈ Event.preRun rule s :: events, event.point ≠ .postRun :=
    List.forall_mem_cons.2 ⟨nofun, h.point_ne⟩
  exact RunLog.follow_of_ne hfront w log others

/-- Of the events of a run, only the end is logged. -/
theorem Trace.follow {registry : Registry} {rule : Rule} {s : Session} {ran : Ran}
    {events : List Event} (h : Trace registry rule s ran events)
    (hrule : ran.engine.rule = rule.jobs) (w : Surroundings) (log : RunLog) :
    log.follow w events = ran.logged w log := by
  cases h with
  | @ended events completed outcome jobs linked told =>
    rw [told.follow, Ran.logged, outcome, hrule]
    simp [RunLog.follow, RunLog.onEvent]
  | @broken events returned failed job left middle error outcome jobs calls linked told breaks =>
    rw [told.follow, Ran.logged, outcome]
    rfl

theorem Told.countP_postRun {calls : List Call} {events : List Event} (h : Told calls events) :
    events.countP (·.point = .postRun) = 0 := by
  simpa [List.countP_eq_zero] using h.point_ne

/-- A run ends at most once. -/
theorem Trace.countP_postRun {registry : Registry} {rule : Rule} {s : Session} {ran : Ran}
    {events : List Event} (h : Trace registry rule s ran events) :
    events.countP (·.point = .postRun) ≤ 1 := by
  cases h with
  | ended _ _ _ told => simp [told.countP_postRun]
  | broken _ _ _ _ told _ => simp [told.countP_postRun]

end Run

/-! ## Reactions to a run -/

namespace Engine

/-- What is told in the course of a run: by the reader, and by the run itself. -/
def told (e : Engine) (input : RuleInput) (s : Session) : List Notice :=
  (e.reader input).notices ++ noticesIn (e.happenings input s)

/-- How receivers react to the events of a run. -/
def reactions (w : Surroundings) (e : Engine) (input : RuleInput) (s : Session) : List Effect :=
  (e.signals.announce w (e.events input s)).2

section

variable (w : Surroundings) (e : Engine) (input : RuleInput) (s : Session)

/-- The signals after a run are those after its events. -/
theorem signals_run :
    (e.run w input s).engine.signals = (e.signals.announce w (e.events input s)).1 := by
  rw [(run_delivers w e input s).1, events_eq]
  exact (Signals.deliver_announce ..).1

/-- A run has no effects but that something is told, and the reactions of receivers. -/
theorem effects_run :
    (e.run w input s).effects.Perm
      ((e.told input s).map .notice ++ e.reactions w input s) := by
  rw [(run_delivers w e input s).2, told, reactions, events_eq, List.map_append,
    List.append_assoc]
  exact (Signals.deliver_announce ..).2.append_left _

/-- Nothing is appended to files but by receivers. -/
theorem appendsOf_run :
    appendsOf (e.run w input s).effects = appendsOf (e.reactions w input s) := by
  rw [(run_delivers w e input s).2, appendsOf_append, appendsOf_map_notice, List.nil_append,
    reactions, events_eq, Signals.appendsOf_deliver]

/-- To follow the events of a run is to log the run. -/
theorem follow_events (log : RunLog) :
    log.follow w (e.events input s) = (e.run w input s).logged w log := by
  cases h : (e.reader input).value with
  | error error =>
    rw [run_of_rejected h, events, h]
    rfl
  | ok rule =>
    have hrule : (e.run w input s).engine.rule = rule.jobs := by
      rw [(reader_rule_run w e input s).2, h]
      rfl
    exact (run_trace h w s).follow hrule w log

/-- A run leaves each run log as it logs the run. -/
theorem runLogs_run :
    (e.run w input s).engine.signals.runLogs =
      e.signals.runLogs.map fun r => (r.1, ((e.run w input s).logged w r.2).1) := by
  simp only [signals_run, Signals.runLogs_announce, follow_events]

/-- What run logs do about a run, in a view that leaves out what observers take note of. -/
theorem filterMap_reactions {β : Type} {view : Effect → Option β}
    (hview : ∀ name seen, view (.seen name seen) = none) :
    (e.reactions w input s).filterMap view =
      e.signals.runLogs.flatMap fun r =>
        ((e.run w input s).logged w r.2).2.filterMap view := by
  have hends : (e.events input s).countP (·.point = .postRun) ≤ 1 := by
    cases h : (e.reader input).value with
    | error error => simp [events, h]
    | ok rule => exact (run_trace h w s).countP_postRun
  simp only [reactions, Signals.filterMap_announce w hview e.signals hends, follow_events]

/-- What is appended for a run is what each run log appends that is connected. -/
theorem appendsOf_run_logged :
    appendsOf (e.run w input s).effects =
      e.signals.runLogs.flatMap fun r => appendsOf ((e.run w input s).logged w r.2).2 :=
  (e.appendsOf_run w input s).trans (filterMap_reactions w e input s fun _ _ => rfl)

end

end Engine

end RuleEngine
