import RuleEngine.Proofs.Engine.Reactions
import RuleEngine.Proofs.RunLog.Lines

/-!
# RuleEngine.Proofs.Engine.Logging

What the run log of an engine writes.

1. `RunLog.Ready` — the file of the day that was asked for last is open.  As long as files
   can be opened this is kept, and each line is written (`RunLog.Ready.write`).
2. `Engine.perform_runLog` — an operation leaves the run log as it logs the run, if the
   operation is one, and unchanged otherwise.
3. `Engine.perform_logged` is the step of a history, and `Engine.performAll_logged` says what
   a run log holds in the end.
-/

namespace RuleEngine

/-! ## Lines of runs -/

namespace RunLog

/-- The file of the day that was asked for last is open. -/
def Ready (log : RunLog) : Prop := log.day ≠ "" → log.file = some (log.path log.day)

/-- The surroundings have a date, and the file of the day can be opened. -/
def Opens (log : RunLog) (w : Surroundings) : Prop :=
  w.day ≠ "" ∧ w.opensFile (log.path w.day) = true

/-- A run log at a later time: it belongs to the same engine, its files are in the same
directory, and it is ready. -/
structure Continues (log later : RunLog) : Prop where
  engine : later.engine = log.engine
  directory : later.directory = log.directory
  ready : later.Ready

theorem Continues.refl {log : RunLog} (h : log.Ready) : log.Continues log := ⟨rfl, rfl, h⟩

theorem Continues.trans {log later last : RunLog} (h : log.Continues later)
    (hlast : later.Continues last) : log.Continues last :=
  ⟨hlast.engine.trans h.engine, hlast.directory.trans h.directory, hlast.ready⟩

theorem Continues.path {log later : RunLog} (h : log.Continues later) : later.path = log.path := by
  funext day
  rw [RunLog.path, RunLog.path, h.engine, h.directory]

theorem Continues.line {log later : RunLog} (h : log.Continues later) : later.line = log.line := by
  funext time message
  rw [RunLog.line, RunLog.line, h.engine]

theorem Continues.opens {log later : RunLog} (h : log.Continues later) :
    later.Opens = log.Opens := by
  funext w
  rw [Opens, Opens, h.path]

/-- A new run log is ready. -/
theorem ready_create (w : Surroundings) (root engine : String) :
    (create w root engine).value.Ready := fun h => absurd rfl h

/-- As long as the files can be opened, a message is appended to the file of the day. -/
theorem Ready.write {log : RunLog} (h : log.Ready) {w : Surroundings} (hopens : log.Opens w)
    (message : String) :
    log.Continues (log.write w message).1 ∧
      appendsOf (log.write w message).2 = [(log.path w.day, log.line w.time message)] := by
  obtain ⟨hday, hfile⟩ := hopens
  by_cases hsame : log.day = w.day
  · have hopen : log.file = some (log.path w.day) := hsame ▸ h (hsame ▸ hday)
    simp only [RunLog.write, openFile, append, if_pos hsame, hopen]
    exact ⟨.refl h, rfl⟩
  · simp only [RunLog.write, openFile, append, if_neg hsame, hfile, if_true]
    exact ⟨⟨rfl, rfl, fun _ => rfl⟩, rfl⟩

end RunLog

namespace Ran

/-- The line that a run is to leave in a run log, with the file it belongs to; a run that did
not come to its end leaves none. -/
def lineIn (log : RunLog) (w : Surroundings) (ran : Ran) : Option (String × String) :=
  match ran.outcome with
  | .ok completed =>
    some (log.path w.day,
      log.line w.time (RunLog.describe ran.engine.rule ran.session.results completed))
  | .error _ => none

theorem lineIn_continues {log later : RunLog} (h : log.Continues later) (w : Surroundings)
    (ran : Ran) : ran.lineIn later w = ran.lineIn log w := by
  rw [lineIn, lineIn, h.path, h.line]

/-- A run log that is ready logs the line of a run, and is ready for the next one. -/
theorem logged_ready {log : RunLog} (h : log.Ready) {w : Surroundings} (hopens : log.Opens w)
    (ran : Ran) :
    log.Continues (ran.logged w log).1 ∧
      appendsOf (ran.logged w log).2 = (ran.lineIn log w).toList := by
  rw [logged, lineIn]
  cases ran.outcome with
  | ok completed => exact h.write hopens _
  | error error => exact ⟨.refl h, rfl⟩

/-- The line of a run is one line exactly when there is no line break in the time stamp, the
name of the engine, the names of the jobs of the rule and the names in the recorded
results. -/
theorem isLine_lineIn {log : RunLog} {w : Surroundings} {ran : Ran} {file text : String}
    (h : ran.lineIn log w = some (file, text)) :
    IsLine text ↔
      Unbroken w.time ∧ Unbroken log.engine ∧
        (∀ job ∈ ran.engine.rule, Unbroken job.name) ∧
        ∀ entry ∈ ran.session.results, Unbroken (RunLog.entryName entry) := by
  rw [lineIn] at h
  cases houtcome : ran.outcome with
  | ok completed =>
    rw [houtcome] at h
    cases h
    exact RunLog.isLine_line_iff ..
  | error error =>
    rw [houtcome] at h
    cases h

/-- The line that each of several runs is to leave in a run log. -/
def linesIn (log : RunLog) (runs : List (Surroundings × Ran)) : List (String × String) :=
  runs.filterMap fun run => run.2.lineIn log run.1

theorem linesIn_singleton (log : RunLog) (w : Surroundings) (ran : Ran) :
    linesIn log [(w, ran)] = (ran.lineIn log w).toList := by
  cases h : ran.lineIn log w <;> simp [linesIn, h]

theorem linesIn_append (log : RunLog) (runs others : List (Surroundings × Ran)) :
    linesIn log (runs ++ others) = linesIn log runs ++ linesIn log others :=
  List.filterMap_append ..

theorem linesIn_continues {log later : RunLog} (h : log.Continues later)
    (runs : List (Surroundings × Ran)) : linesIn later runs = linesIn log runs := by
  simp only [linesIn, lineIn_continues h]

end Ran

/-! ## Histories -/

namespace Operation

/-- Whether an operation leaves a run log alone that is connected under the given identity,
and connects no other one. -/
def keepsLog (own : Nat) : Operation → Bool
  | .connect _ (.runLog _) => false
  | .disconnect point id => point ≠ .postRun || id ≠ own
  | .configure _ config => config.logDir.isNone
  | .connect _ (.observer _) | .register _ | .importFrom .. | .setContext _ | .setReader _
  | .read _ | .run .. | .runInContext .. | .runWithImports .. => true

/-- The surroundings in which an operation runs a rule, if it runs one. -/
def runsIn? : Operation → Option Surroundings
  | .run w .. | .runInContext w _ | .runWithImports w .. => some w
  | .register _ | .importFrom .. | .connect .. | .disconnect .. | .configure .. | .setContext _
  | .setReader _ | .read _ => none

end Operation

namespace Engine

/-- The run of an operation, if it is one, with its surroundings. -/
def ran? (e : Engine) : Operation → Option (Surroundings × Ran)
  | .run w input s => some (w, e.run w input s)
  | .runInContext w input => some (w, e.runInContext w input)
  | .runWithImports w input s source => some (w, e.runWithImports w input s source)
  | .register _ | .importFrom .. | .connect .. | .disconnect .. | .configure .. | .setContext _
  | .setReader _ | .read _ => none

/-- The runs of operations that are performed one after the other. -/
def ransOf (e : Engine) : List Operation → List (Surroundings × Ran)
  | [] => []
  | op :: ops => (e.ran? op).toList ++ (e.perform op).engine.ransOf ops

variable {e : Engine} {own : Nat} {log : RunLog}

/-- What is logged of a run, when one run log is connected. -/
theorem run_logged (h : e.signals.runLogs = [(own, log)]) (w : Surroundings) (input : RuleInput)
    (s : Session) :
    (e.run w input s).engine.signals.runLogs = [(own, ((e.run w input s).logged w log).1)] ∧
      appendsOf (e.run w input s).effects = appendsOf ((e.run w input s).logged w log).2 := by
  rw [runLogs_run, appendsOf_run_logged, h]
  exact ⟨rfl, List.flatMap_singleton ..⟩

/-- What a run log becomes by an operation, and what it does: it logs the run of the operation,
if it is one. -/
def logged (e : Engine) (op : Operation) (log : RunLog) : RunLog × List Effect :=
  (e.ran? op).elim (log, []) fun run => run.2.logged run.1 log

/-- An operation leaves a run log as it logs the run, and nothing else is appended. -/
theorem perform_runLog (h : e.signals.runLogs = [(own, log)]) {op : Operation}
    (hkeeps : op.keepsLog own = true) :
    (e.perform op).engine.signals.runLogs = [(own, (e.logged op log).1)] ∧
      appendsOf (e.perform op).effects = appendsOf (e.logged op log).2 := by
  cases op with
  | register d => exact ⟨h, appendsOf_map_notice _⟩
  | importFrom source overrides => exact ⟨h, appendsOf_map_notice _⟩
  | connect point receiver =>
    cases receiver with
    | observer name => exact ⟨(Signals.runLogs_connect_observer ..).trans h, rfl⟩
    | runLog other => cases hkeeps
  | disconnect point id =>
    have hother : point ≠ .postRun ∨ id ≠ own := by simpa [Operation.keepsLog] using hkeeps
    exact ⟨Signals.runLogs_disconnect h hother, rfl⟩
  | configure w config =>
    have hnone : config.logDir = none := Option.isNone_iff_eq_none.1 hkeeps
    refine ⟨?_, appendsOf_map_notice _⟩
    simp only [perform, withConfig, hnone]
    exact h
  | setContext session => exact ⟨h, rfl⟩
  | setReader reader => exact ⟨h, rfl⟩
  | read input =>
    refine ⟨?_, appendsOf_map_notice _⟩
    simp only [perform, read]
    split <;> exact h
  | run w input s => exact run_logged h w input s
  | runInContext w input => exact run_logged h w input e.session
  | runWithImports w input s source =>
    have himported : (e.importFrom source none).value.signals.runLogs = [(own, log)] := h
    obtain ⟨hlogs, happends⟩ := run_logged himported w input s
    refine ⟨hlogs, ?_⟩
    simp only [perform, Done.ofRan, runWithImports, appendsOf_append, appendsOf_map_notice,
      List.nil_append]
    exact happends

/-- The surroundings of the run of an operation. -/
theorem runsIn?_eq (e : Engine) (op : Operation) : op.runsIn? = (e.ran? op).map Prod.fst := by
  cases op <;> rfl

/-- The run log of an engine, after an operation and what it appended. -/
def LogsTo (done : Done) (own : Nat) (log : RunLog) (lines : List (String × String)) : Prop :=
  ∃ later, log.Continues later ∧ done.engine.signals.runLogs = [(own, later)] ∧
    appendsOf done.effects = lines

/-- An operation appends the line of its run, if it is one, and the run log stays ready. -/
theorem perform_logged (h : e.signals.runLogs = [(own, log)]) (hready : log.Ready)
    {op : Operation} (hkeeps : op.keepsLog own = true)
    (hopens : ∀ w ∈ op.runsIn?, log.Opens w) :
    LogsTo (e.perform op) own log (Ran.linesIn log (e.ran? op).toList) := by
  obtain ⟨hlogs, happends⟩ := perform_runLog h hkeeps
  rw [runsIn?_eq e op] at hopens
  rw [logged] at hlogs happends
  cases hran : e.ran? op with
  | none =>
    rw [hran] at hlogs happends
    exact ⟨log, .refl hready, hlogs, happends⟩
  | some run =>
    obtain ⟨w, ran⟩ := run
    rw [hran] at hlogs happends hopens
    obtain ⟨hlater, hline⟩ := Ran.logged_ready hready (hopens w rfl) ran
    exact ⟨_, hlater, hlogs, happends.trans (hline.trans (Ran.linesIn_singleton ..).symm)⟩

/-- Operations append the lines of their runs, in order, and the run log stays ready. -/
theorem performAll_logsTo (h : e.signals.runLogs = [(own, log)]) (hready : log.Ready)
    {ops : List Operation} (hkeeps : ∀ op ∈ ops, op.keepsLog own = true)
    (hopens : ∀ op ∈ ops, ∀ w ∈ op.runsIn?, log.Opens w) :
    LogsTo (e.performAll ops) own log (Ran.linesIn log (e.ransOf ops)) := by
  induction ops generalizing e log with
  | nil => exact ⟨log, .refl hready, h, rfl⟩
  | cons op ops ih =>
    obtain ⟨hkeep, hkeeps⟩ := List.forall_mem_cons.1 hkeeps
    obtain ⟨hopen, hopens⟩ := List.forall_mem_cons.1 hopens
    obtain ⟨later, hlater, hlogs, happends⟩ := perform_logged h hready hkeep hopen
    obtain ⟨last, hlast, hlastLogs, hothers⟩ :=
      ih hlogs hlater.ready hkeeps (by rwa [hlater.opens])
    refine ⟨last, hlater.trans hlast, hlastLogs, ?_⟩
    rw [performAll_cons, Done.after, appendsOf_append, happends, hothers,
      Ran.linesIn_continues hlater, ransOf, Ran.linesIn_append]

/-- A configuration with a log directory connects a new run log. -/
theorem runLogs_configure (h : e.signals.runLogs = []) (w : Surroundings) {config : Config}
    {dir : String} (hdir : config.logDir = some dir) :
    (e.perform (.configure w config)).engine.signals.runLogs =
      [((e.signals.get .postRun).next, (RunLog.create w dir config.name).value)] := by
  simp only [perform, withConfig, hdir]
  exact (Signals.runLogs_connect_runLog ..).trans (by rw [h]; rfl)

/-- **What a run log holds.**  When a configuration with a log directory is applied to an
engine without run logs, and as long as the file of the day can be opened, each run that
comes to its end appends its line to it, in order, and nothing else is appended: nothing for
a run that is broken off, and nothing for other operations.  Values are escaped in a line, but
names are not: a line is one line exactly when no name in it has a line break. -/
theorem performAll_logged {w : Surroundings} {config : Config} {dir : String}
    {ops : List Operation} (hnone : e.signals.runLogs = []) (hdir : config.logDir = some dir)
    (hkeeps : ∀ op ∈ ops, op.keepsLog (e.signals.get .postRun).next = true)
    (hopens : ∀ op ∈ ops, ∀ v ∈ op.runsIn?, (RunLog.create w dir config.name).value.Opens v) :
    let log := (RunLog.create w dir config.name).value
    let runs := e.ransOf (.configure w config :: ops)
    appendsOf (e.performAll (.configure w config :: ops)).effects = Ran.linesIn log runs ∧
      ∀ run ∈ runs, ∀ file text, run.2.lineIn log run.1 = some (file, text) →
        (IsLine text ↔
          Unbroken run.1.time ∧ Unbroken config.name ∧
            (∀ job ∈ run.2.engine.rule, Unbroken job.name) ∧
            ∀ entry ∈ run.2.session.results, Unbroken (RunLog.entryName entry)) := by
  intro log runs
  refine ⟨?_, fun run _ file text htext => Ran.isLine_lineIn htext⟩
  have hlogs := runLogs_configure hnone w hdir
  obtain ⟨later, hlater, -, happends⟩ :=
    performAll_logsTo hlogs (RunLog.ready_create w dir config.name) hkeeps hopens
  have hquiet : appendsOf (e.perform (.configure w config)).effects = [] :=
    appendsOf_map_notice _
  rw [performAll_cons, Done.after, appendsOf_append, hquiet, happends]
  rfl

/-- Of an input that is no rule, a run that breaks, and one that comes to its end, only the
last one is logged. -/
theorem performAll_logged_echoAndSeek :
    let w : Surroundings := ⟨"20250101", "12:00:00", fun _ => true, fun _ => true⟩
    let e : Engine := { Engine.new .terse with registry := Run.echoAndSeek }
    let config : Config := { Config.default with logDir := some "logs" }
    let ops : List Operation :=
      [.run w (.value .null) .empty, .runInContext w (.jobs [Run.seekJob]),
        .run w (.jobs [Run.echoJob]) .empty]
    e.signals.runLogs = [] ∧ (∀ op ∈ ops, op.keepsLog (e.signals.get .postRun).next = true) ∧
      appendsOf (e.performAll (.configure w config :: ops)).effects =
        [("logs/rules/default/20250101_default.log",
          "12:00:00 [RULE] default C:echo | echo=true | completed\n")] := by
  intro w e config ops
  have hkeeps : ∀ op ∈ ops, op.keepsLog (e.signals.get .postRun).next = true := by
    simp [ops, Operation.keepsLog]
  have hopens : ∀ op ∈ ops, ∀ v ∈ op.runsIn?,
      (RunLog.create w "logs" config.name).value.Opens v := by
    have hw : (RunLog.create w "logs" config.name).value.Opens w := ⟨by decide, rfl⟩
    simp [ops, Operation.runsIn?, hw]
  have logged := @performAll_logged e w config "logs" ops rfl rfl hkeeps hopens
  refine ⟨rfl, hkeeps, logged.1.trans ?_⟩
  decide +kernel

/-- A rule that is stopped in front of a job whose name has a line break: the job is not even
looked up, but what is appended for the run are two lines. -/
theorem appendsTwoLines_nameWithBreak :
    let w : Surroundings := ⟨"20250101", "12:00:00", fun _ => true, fun _ => true⟩
    let stop : Function := ⟨"stop", [], none, fun s _ => ⟨.ok (.bool false), s, []⟩⟩
    let config : Config := { Config.default with logDir := some "logs" }
    let e := ((Engine.new .terse).performAll
      [.register ⟨none, .condition, stop⟩, .configure w config]).engine
    let input : RuleInput := .jobs [⟨"stop", .job, []⟩, ⟨"a\nb", .job, []⟩]
    let text := "12:00:00 [RULE] default J:stop J:a\nb | stop=false | short-circuit\n"
    (e.run w input .empty).outcome = .ok false ∧
      appendsOf (e.run w input .empty).effects =
        [("logs/rules/default/20250101_default.log", text)] ∧
      ¬ IsLine text := by
  intro w stop config e input text
  refine ⟨by rfl, by decide +kernel, fun hline => ?_⟩
  have hbody : Unbroken "12:00:00 [RULE] default J:stop J:a\nb | stop=false | short-circuit" :=
    (isLine_append_iff _).1 hline
  exact absurd hbody (by decide)

end Engine

end RuleEngine
