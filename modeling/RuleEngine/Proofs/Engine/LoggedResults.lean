import RuleEngine.Proofs.Engine.Logging

/-!
# RuleEngine.Proofs.Engine.LoggedResults

Which results the line of a run reports: those that the session holds when the run ends, and
so the results of earlier runs on the session along with those of the run itself.

1. The words for results tell whether there is something in front of them
   (`RunLog.formatResults_append_eq_iff`).
2. A run log writes a message to one file or to none, whatever it says
   (`RunLog.appendsOf_write`), so that what is appended tells the message
   (`RunLog.message_eq_of_appendsOf_eq`).
3. `Ran.ReportedAs` — the run logs report a run by given words; `Engine.run_reportedResults`
   says by which.
-/

namespace RuleEngine

namespace RunLog

/-! ## Words for results -/

/-- The words for an entry: the name of the job and the text of its result. -/
theorem formatResult_entry (name : String) (result : Value) :
    formatResult (.obj [("job", .str name), ("return", result)]) =
      name ++ "=" ++ String.ofList (Text.trimBy (· = '"') (Json.chars result)) := rfl

/-- There is a sign of equality in the words for results, unless there are none. -/
theorem equals_mem_formatResults {results : List Value} (h : results ≠ []) :
    '=' ∈ (formatResults results).toList := by
  obtain ⟨entry, results, rfl⟩ := List.exists_cons_of_ne_nil h
  have hentry : '=' ∈ (formatResult entry).toList := by simp [formatResult]
  cases results with
  | nil => simpa [formatResults] using hentry
  | cons other results => simp [formatResults, hentry]

theorem formatResults_append {old own : List Value} (hold : old ≠ []) (hown : own ≠ []) :
    formatResults (old ++ own) = formatResults old ++ ", " ++ formatResults own := by
  simp [formatResults, hold, hown, String.intercalate_append_of_ne_nil]

/-- The words for results are those for the last ones of them only when these are all. -/
theorem formatResults_append_eq_iff (old own : List Value) :
    formatResults (old ++ own) = formatResults own ↔ old = [] := by
  refine ⟨fun h => by_contra fun hold => ?_, fun h => by rw [h, List.nil_append]⟩
  by_cases hown : own = []
  · -- the words for no results have no sign of equality
    subst hown
    rw [List.append_nil] at h
    have hequals := equals_mem_formatResults hold
    rw [h] at hequals
    exact absurd hequals (by decide)
  · rw [formatResults_append hold hown] at h
    have hlength := congrArg String.length h
    rw [String.length_append, String.length_append] at hlength
    have hcomma : ", ".length = 2 := by rfl
    omega

/-! ## Messages -/

/-- What a line says about a run, with the given words for its results. -/
def message (rule : List Job) (words : String) (completed : Bool) : String :=
  formatJobs rule ++ " | " ++ words ++ " | " ++ status completed

theorem describe_eq_message (rule : List Job) (results : List Value) (completed : Bool) :
    describe rule results completed = message rule (formatResults results) completed := rfl

theorem message_inj {rule : List Job} {words others : String} {completed : Bool} :
    message rule words completed = message rule others completed ↔ words = others := by
  simp [message, String.append_left_inj, String.append_right_inj]

theorem line_inj (log : RunLog) (time : String) {m other : String} :
    log.line time m = log.line time other ↔ m = other := by
  simp [line, String.append_left_inj, String.append_right_inj]

/-- The file that a message is appended to, if it is appended to one. -/
def target (w : Surroundings) (log : RunLog) : Option String :=
  if (log.openFile w).2.isEmpty then (log.openFile w).1.file else none

/-- Opening a file leaves the words of lines alone. -/
theorem line_openFile (w : Surroundings) (log : RunLog) : (log.openFile w).1.line = log.line := by
  rw [openFile]
  split
  · rfl
  · split <;> rfl

/-- A message is appended to one file or to none, whatever it says. -/
theorem appendsOf_write (w : Surroundings) (log : RunLog) (m : String) :
    appendsOf (log.write w m).2 = (log.target w).toList.map (·, log.line w.time m) := by
  obtain h | h := log.openFile_cases w
  · simp only [write, target, h, List.isEmpty_nil, if_true, append, line_openFile]
    cases (log.openFile w).1.file <;> rfl
  · simp only [write, target, h]
    rfl

/-- What several run logs append tells the message, when they append something. -/
theorem message_eq_of_appendsOf_eq {w : Surroundings} {m other : String}
    {logs : List (Nat × RunLog)}
    (h : (logs.flatMap fun r => appendsOf (r.2.write w m).2) =
      logs.flatMap fun r => appendsOf (r.2.write w other).2)
    (hsome : (logs.flatMap fun r => appendsOf (r.2.write w m).2) ≠ []) : m = other := by
  induction logs with
  | nil => exact absurd rfl hsome
  | cons first logs ih =>
    simp only [List.flatMap_cons, appendsOf_write w first.2] at h hsome
    cases htarget : first.2.target w with
    | none =>
      -- the first run log appends nothing, whatever it is to say
      rw [htarget] at h hsome
      exact ih h hsome
    | some file =>
      rw [htarget] at h
      obtain ⟨hfirst, -⟩ := List.cons.inj h
      exact (first.2.line_inj w.time).1 (Prod.mk.inj hfirst).2

end RunLog

/-! ## Reports -/

/-- The run logs report a run by the given words for its results: when the run ends, each of
them writes the message with these words, and nothing else is appended. -/
def Ran.ReportedAs (w : Surroundings) (logs : List (Nat × RunLog)) (words : String) (ran : Ran) :
    Prop :=
  ∀ completed, ran.outcome = .ok completed →
    appendsOf ran.effects =
      logs.flatMap fun r =>
        appendsOf (r.2.write w (RunLog.message ran.engine.rule words completed)).2

/-- The words by which a run is reported are decided, when something is appended for it. -/
theorem Ran.ReportedAs.words_eq {w : Surroundings} {logs : List (Nat × RunLog)}
    {words others : String} {ran : Ran} (h : ran.ReportedAs w logs words)
    (hothers : ran.ReportedAs w logs others) {completed : Bool}
    (houtcome : ran.outcome = .ok completed) (hsome : appendsOf ran.effects ≠ []) :
    words = others := by
  have hsame := (h completed houtcome).symm.trans (hothers completed houtcome)
  rw [h completed houtcome] at hsome
  exact RunLog.message_inj.1 (RunLog.message_eq_of_appendsOf_eq hsame hsome)

/-- A call returned, and the entry records its result: in a line it stands as the name of the
job and the text of the result. -/
def Call.RecordedBy (call : Call) (entry : Value) : Prop :=
  ∃ result, call.Returned result ∧
    entry = .obj [("job", .str call.job.name), ("return", result)] ∧
    RunLog.formatResult entry =
      call.job.name ++ "=" ++ String.ofList (Text.trimBy (· = '"') (Json.chars result))

/-- Calls that returned are recorded by one entry each, in order. -/
theorem Run.Told.recordedBy {calls : List Call} {events : List Event} (h : Told calls events) :
    List.Forall₂ Call.RecordedBy calls (entriesOf calls) := by
  induction h with
  | nil => exact .nil
  | @cons call calls result events records rest ih =>
    have hentry : call.recordedEntry =
        some (.obj [("job", .str call.job.name), ("return", result)]) := by
      have hreturned : call.reply.result = .ok result := records.returned
      simp [Call.recordedEntry, Call.result?, hreturned, Except.toOption]
    rw [entriesOf, List.filterMap_cons_some hentry]
    exact .cons ⟨result, records.returned, rfl, RunLog.formatResult_entry ..⟩ ih

namespace Engine

variable {e : Engine}

/-- A run is reported by the results that the session holds when it ends. -/
theorem run_reportedSession (w : Surroundings) (e : Engine) (input : RuleInput) (s : Session) :
    (e.run w input s).ReportedAs w e.signals.runLogs
      (RunLog.formatResults (e.run w input s).session.results) := by
  intro completed houtcome
  rw [appendsOf_run_logged]
  simp only [Ran.logged, houtcome, RunLog.logRun, RunLog.describe_eq_message]

/-- The calls of a run that ends returned, and are recorded in order. -/
theorem run_recordedBy {w : Surroundings} {input : RuleInput} {s : Session} {completed : Bool}
    (houtcome : (e.run w input s).outcome = .ok completed) :
    List.Forall₂ Call.RecordedBy (e.run w input s).calls
      (entriesOf (e.run w input s).calls) := by
  cases hread : (e.reader input).value with
  | error error =>
    rw [run_of_rejected hread] at houtcome
    cases houtcome
  | ok rule =>
    have htrace := run_trace hread w s
    generalize e.events input s = events at htrace
    cases htrace with
    | ended _ _ _ told => exact told.recordedBy
    | broken outcome => cases outcome.symm.trans houtcome

/-- **Which results a line reports.**  Where the handlers leave the results of the session
alone, a run that ends is reported by the results that the session held before, followed by
one entry for each call of the run, in order.  When a line is appended for it, it reports the
entries of the run itself exactly when the session held no results before. -/
theorem run_reportedResults (hkeeps : e.registry.KeepsResults) (w : Surroundings)
    (input : RuleInput) (s : Session) {completed : Bool}
    (houtcome : (e.run w input s).outcome = .ok completed) :
    let ran := e.run w input s
    let logs := e.signals.runLogs
    let own := entriesOf ran.calls
    List.Forall₂ Call.RecordedBy ran.calls own ∧
      ran.ReportedAs w logs (RunLog.formatResults (s.results ++ own)) ∧
      (appendsOf ran.effects ≠ [] →
        (ran.ReportedAs w logs (RunLog.formatResults own) ↔ s.results = [])) := by
  intro ran logs own
  have hadds : ran.session.results = s.results ++ own := run_addsEntries hkeeps w input s
  have hreported : ran.ReportedAs w logs (RunLog.formatResults (s.results ++ own)) :=
    hadds ▸ run_reportedSession w e input s
  refine ⟨run_recordedBy houtcome, hreported, fun hsome => ⟨fun hown => ?_, fun hnone => ?_⟩⟩
  · have hwords := hreported.words_eq hown houtcome hsome
    exact (RunLog.formatResults_append_eq_iff ..).1 hwords
  · rwa [hnone, List.nil_append] at hreported

/-- An engine with a run log on whose context session the rule of one echo ran once. -/
def echoedOnce : Engine :=
  let w : Surroundings := ⟨"20250101", "12:00:00", fun _ => true, fun _ => true⟩
  let config : Config := { Config.default with logDir := some "logs" }
  let e : Engine := { Engine.new .terse with registry := Run.echoAndSeek }
  (e.performAll [.configure w config, .runInContext w (.jobs [Run.echoJob])]).engine

/-- On a session of its own, the next run is reported by its own results. -/
theorem run_reportedResults_emptySession :
    let w : Surroundings := ⟨"20250101", "12:00:00", fun _ => true, fun _ => true⟩
    let ran := echoedOnce.run w (.jobs [Run.echoJob]) .empty
    echoedOnce.registry.KeepsResults ∧ ran.outcome = .ok true ∧
      RunLog.formatResults (entriesOf ran.calls) = "echo=true" ∧
      ran.ReportedAs w echoedOnce.signals.runLogs (RunLog.formatResults (entriesOf ran.calls)) := by
  intro w ran
  have hkeeps : echoedOnce.registry.KeepsResults := Run.keepsResults_echoAndSeek
  have houtcome : ran.outcome = .ok true := by rfl
  have reported := run_reportedResults hkeeps w (.jobs [Run.echoJob]) .empty houtcome
  have hsome : appendsOf ran.effects ≠ [] := by decide +kernel
  exact ⟨hkeeps, houtcome, by decide +kernel, (reported.2.2 hsome).2 rfl⟩

/-- On the context session, the next run is reported by the results of both runs. -/
theorem runInContext_reportsBoth :
    let w : Surroundings := ⟨"20250101", "12:00:00", fun _ => true, fun _ => true⟩
    let ran := echoedOnce.runInContext w (.jobs [Run.echoJob])
    echoedOnce.registry.KeepsResults ∧ ran.outcome = .ok true ∧
      RunLog.formatResults (entriesOf ran.calls) = "echo=true" ∧
      appendsOf ran.effects =
        [("logs/rules/default/20250101_default.log",
          "12:00:00 [RULE] default C:echo | echo=true, echo=true | completed\n")] ∧
      ¬ ran.ReportedAs w echoedOnce.signals.runLogs
        (RunLog.formatResults (entriesOf ran.calls)) := by
  intro w ran
  have houtcome : ran.outcome = .ok true := by rfl
  refine ⟨Run.keepsResults_echoAndSeek, houtcome, by decide +kernel, by decide +kernel, ?_⟩
  intro hown
  exact absurd (hown true houtcome) (by decide +kernel)

end Engine

end RuleEngine
