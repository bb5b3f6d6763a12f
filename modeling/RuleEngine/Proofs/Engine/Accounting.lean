import RuleEngine.Proofs.Engine.Logging

/-!
# RuleEngine.Proofs.Engine.Accounting

Which runs of a day are accounted for, by a line in the run log or by a warning of it.

1. The file of a day is asked for by the first run of the day that ends, and not again
   (`RunLog.openFile_openFile`), so that a run log is in one of two states on a day:
   `RunLog.onDay`.
2. One operation takes a run log from one of these states to one of them
   (`Engine.perform_onDay`), and so do all operations of a day (`Engine.performAll_onDay`).
3. A file that cannot be opened is told by the run that asks for it, and by no other one;
   `Engine.performAll_accounts` says which runs are lost.
-/

namespace RuleEngine

/-! ## Days -/

/-- Surroundings of one day, in which the same files can be opened. -/
structure Surroundings.SameDay (w v : Surroundings) : Prop where
  day : w.day = v.day
  opensFile : w.opensFile = v.opensFile

namespace RunLog

variable {w v : Surroundings}

theorem openFile_sameDay (h : w.SameDay v) (log : RunLog) : log.openFile w = log.openFile v := by
  rw [openFile, openFile, h.day, h.opensFile]

/-- The file of a day is asked for once. -/
theorem openFile_openFile (v : Surroundings) (log : RunLog) :
    (log.openFile v).1.openFile v = ((log.openFile v).1, []) := by
  have hday : (log.openFile v).1.day = v.day := by
    rw [openFile]
    split
    · assumption
    · split <;> rfl
  rw [openFile, if_pos hday]

/-- A run log on a day, by whether the file of the day was asked for. -/
def onDay (v : Surroundings) (log : RunLog) (asked : Bool) : RunLog :=
  if asked then (log.openFile v).1 else log

/-- Whether or not the file of the day was asked for, it was after asking for it. -/
theorem openFile_onDay (v : Surroundings) (log : RunLog) (asked : Bool) :
    (log.onDay v asked).openFile v =
      (log.onDay v true, if asked then [] else (log.openFile v).2) := by
  cases asked with
  | false => rfl
  | true => exact openFile_openFile v log

/-- What a run log without an open file does about a message on a new day: the line is written
as long as the file can be opened, and otherwise this is told when it is asked for. -/
theorem write_onDay {log : RunLog} (hday : log.day ≠ v.day) (hfile : log.file = none)
    (asked : Bool) (m : String) :
    let opens := v.opensFile (log.path v.day) = true
    appendsOf ((log.onDay v asked).write v m).2 =
        (if opens then [(log.path v.day, log.line v.time m)] else []) ∧
      noticesOf ((log.onDay v asked).write v m).2 =
        if opens ∨ asked = true then [] else [.logOpen] := by
  intro opens
  have hopen : log.openFile v = if opens
      then ({ log with day := v.day, file := some (log.path v.day) }, [])
      else ({ log with day := v.day }, [.notice .logOpen]) := if_neg hday
  simp only [write, openFile_onDay]
  by_cases h : opens
  · rw [if_pos h] at hopen
    simp only [onDay, if_true, hopen, ite_self, h, true_or]
    exact ⟨rfl, rfl⟩
  · rw [if_neg h] at hopen
    simp only [onDay, if_true, hopen, h, false_or, if_false]
    cases asked with
    | false => exact ⟨rfl, rfl⟩
    | true =>
      simp only [append, hfile]
      exact ⟨rfl, rfl⟩

end RunLog

namespace Ran

/-- Whether one of several runs came to its end. -/
def anyEnded (runs : List (Surroundings × Ran)) : Bool := runs.any fun run => run.2.outcome.isOk

theorem anyEnded_append (runs others : List (Surroundings × Ran)) :
    anyEnded (runs ++ others) = (anyEnded runs || anyEnded others) := List.any_append

/-- A run that ends asks for the file of the day. -/
theorem logged_onDay {w v : Surroundings} (h : w.SameDay v) (log : RunLog) (asked : Bool)
    (ran : Ran) :
    (ran.logged w (log.onDay v asked)).1 = log.onDay v (asked || ran.outcome.isOk) := by
  rw [logged]
  cases ran.outcome with
  | ok completed =>
    have hwritten : ((log.onDay v asked).openFile w).1 = log.onDay v true := by
      rw [RunLog.openFile_sameDay h, RunLog.openFile_onDay]
    simpa [RunLog.logRun, RunLog.write, Except.isOk, Except.toBool] using hwritten
  | error error => simp [Except.isOk, Except.toBool]

end Ran

/-! ## Histories of a day -/

namespace Engine

variable {e : Engine} {own : Nat} {log : RunLog} {v : Surroundings}

/-- How receivers react to the run of an operation, if it is one. -/
def reactionsTo (e : Engine) : Operation → List Effect
  | .run w input s => e.reactions w input s
  | .runInContext w input => e.reactions w input e.session
  | .runWithImports w input s source => (e.importFrom source none).value.reactions w input s
  | .register _ | .importFrom .. | .connect .. | .disconnect .. | .configure .. | .setContext _
  | .setReader _ | .read _ => []

/-- What is told in reaction to a run is told by the run log, when one is connected. -/
theorem noticesOf_reactions (h : e.signals.runLogs = [(own, log)]) (w : Surroundings)
    (input : RuleInput) (s : Session) :
    noticesOf (e.reactions w input s) = noticesOf ((e.run w input s).logged w log).2 := by
  have htold : noticesOf (e.reactions w input s) = _ :=
    filterMap_reactions w e input s fun _ _ => rfl
  rw [htold, h]
  exact List.flatMap_singleton ..

theorem noticesOf_reactionsTo (h : e.signals.runLogs = [(own, log)]) (op : Operation) :
    noticesOf (e.reactionsTo op) = noticesOf (e.logged op log).2 := by
  cases op with
  | run w input s => exact noticesOf_reactions h w input s
  | runInContext w input => exact noticesOf_reactions h w input e.session
  | runWithImports w input s source =>
    have himported : (e.importFrom source none).value.signals.runLogs = [(own, log)] := h
    exact noticesOf_reactions himported w input s
  | register | importFrom | connect | disconnect | configure | setContext | setReader | read => rfl

/-- An operation that runs a rule to its end has a line written for it. -/
theorem logged_of_ended {op : Operation} {w : Surroundings} {ran : Ran} {completed : Bool}
    (hran : e.ran? op = some (w, ran)) (hended : ran.outcome = .ok completed) (log : RunLog) :
    e.logged op log =
      log.write w (RunLog.describe ran.engine.rule ran.session.results completed) := by
  rw [logged, hran, Option.elim_some, Ran.logged, hended]
  rfl

/-- An operation leaves the run log of a day as one that was asked for the file of the day, if
it runs a rule to its end. -/
theorem perform_onDay {asked : Bool} {op : Operation}
    (h : e.signals.runLogs = [(own, log.onDay v asked)]) (hkeeps : op.keepsLog own = true)
    (hsame : ∀ run ∈ (e.ran? op).toList, run.1.SameDay v) :
    (e.perform op).engine.signals.runLogs =
      [(own, log.onDay v (asked || Ran.anyEnded (e.ran? op).toList))] := by
  rw [(perform_runLog h hkeeps).1, logged]
  cases hran : e.ran? op with
  | none => simp [Ran.anyEnded]
  | some run =>
    have hday : run.1.SameDay v := hsame run (by simp [hran])
    simp [Ran.anyEnded, Ran.logged_onDay hday]

/-- Operations of a day do so, if one of their runs comes to its end. -/
theorem performAll_onDay {asked : Bool} {ops : List Operation}
    (h : e.signals.runLogs = [(own, log.onDay v asked)])
    (hkeeps : ∀ op ∈ ops, op.keepsLog own = true)
    (hsame : ∀ run ∈ e.ransOf ops, run.1.SameDay v) :
    (e.performAll ops).engine.signals.runLogs =
      [(own, log.onDay v (asked || Ran.anyEnded (e.ransOf ops)))] := by
  induction ops generalizing e asked with
  | nil =>
    rw [ransOf, Ran.anyEnded, List.any_nil, Bool.or_false]
    exact h
  | cons op ops ih =>
    obtain ⟨hkeep, hkeeps⟩ := List.forall_mem_cons.1 hkeeps
    obtain ⟨hfirst, hothers⟩ := List.forall_mem_append.1 hsame
    rw [performAll_cons, Done.after, ransOf, Ran.anyEnded_append, ← Bool.or_assoc]
    exact ih (perform_onDay h hkeep hfirst) hkeeps hothers

/-- An operation accounts for its run: the given line is appended, or receivers tell something
about the run. -/
def Accounts (e : Engine) (op : Operation) (line : String × String) : Prop :=
  line ∈ appendsOf (e.perform op).effects ∨ noticesOf (e.reactionsTo op) ≠ []

theorem accounts_iff {op : Operation} {line : String × String} {opens earlier : Prop}
    [Decidable opens] [Decidable earlier]
    (happends : appendsOf (e.perform op).effects = if opens then [line] else [])
    (htold : noticesOf (e.reactionsTo op) = if opens ∨ earlier then [] else [.logOpen]) :
    e.Accounts op line ↔ opens ∨ ¬ earlier := by
  rw [Accounts, happends, htold]
  by_cases hopens : opens <;> by_cases hearlier : earlier <;> simp [hopens, hearlier]

/-- **Which runs are accounted for.**  On one day, after a configuration with a log directory
was applied to an engine without run logs, a run that comes to its end appends its line exactly
when the file of the day can be opened.  Otherwise the run log warns of the first run of the day
that comes to its end; later ones are lost: nothing is appended for them, and nothing is told. -/
theorem performAll_accounts {w : Surroundings} {config : Config} {dir : String}
    {ops : List Operation} {op : Operation} {ran : Ran} {completed : Bool}
    (hnone : e.signals.runLogs = []) (hdir : config.logDir = some dir)
    (hkeeps : ∀ other ∈ op :: ops, other.keepsLog (e.signals.get .postRun).next = true)
    (hday : v.day ≠ "")
    (hsame : ∀ run ∈ e.ransOf (.configure w config :: ops), run.1.SameDay v)
    (hran : (e.performAll (.configure w config :: ops)).engine.ran? op = some (v, ran))
    (hended : ran.outcome = .ok completed) :
    let before := (e.performAll (.configure w config :: ops)).engine
    let log := (RunLog.create w dir config.name).value
    let file := log.path v.day
    let line := log.line v.time (RunLog.describe ran.engine.rule ran.session.results completed)
    let opens := v.opensFile file = true
    let earlier := Ran.anyEnded (e.ransOf (.configure w config :: ops)) = true
    appendsOf (before.perform op).effects = (if opens then [(file, line)] else []) ∧
      noticesOf (before.reactionsTo op) = (if opens ∨ earlier then [] else [.logOpen]) ∧
      (before.Accounts op (file, line) ↔ opens ∨ ¬ earlier) := by
  intro before log file line opens earlier
  obtain ⟨hkeep, hkeeps⟩ := List.forall_mem_cons.1 hkeeps
  have hnew : (e.perform (.configure w config)).engine.signals.runLogs =
      [((e.signals.get .postRun).next, log.onDay v false)] := runLogs_configure hnone w hdir
  -- no run comes with the configuration itself
  have hlogs : before.signals.runLogs =
      [((e.signals.get .postRun).next,
        log.onDay v (Ran.anyEnded (e.ransOf (.configure w config :: ops))))] :=
    (performAll_onDay hnew hkeeps hsame).trans (by rw [Bool.false_or]; rfl)
  obtain ⟨-, happends⟩ := perform_runLog hlogs hkeep
  have htold := noticesOf_reactionsTo hlogs op
  rw [logged_of_ended hran hended] at happends htold
  have hdate : log.day ≠ v.day := Ne.symm hday
  obtain ⟨hlines, hnotices⟩ := RunLog.write_onDay hdate rfl
    (Ran.anyEnded (e.ransOf (.configure w config :: ops)))
    (RunLog.describe ran.engine.rule ran.session.results completed)
  rw [hlines] at happends
  rw [hnotices] at htold
  exact ⟨happends, htold, accounts_iff happends htold⟩

/-- The name of the engine has a separator, so that no file can be opened.  A run that breaks
does not ask for the file; it is told by the first run that comes to its end. -/
theorem performAll_accounts_firstOfDay :
    let v : Surroundings := ⟨"20250101", "12:00:00", fun _ => true, fun _ => false⟩
    let config : Config := { Config.default with name := "a/b", logDir := some "logs" }
    let e : Engine := { Engine.new .terse with registry := Run.echoAndSeek }
    let ops : List Operation := [.run v (.jobs [Run.seekJob]) .empty]
    let op : Operation := .run v (.jobs [Run.echoJob]) .empty
    let before := (e.performAll (.configure v config :: ops)).engine
    let ran := before.run v (.jobs [Run.echoJob]) .empty
    let log := (RunLog.create v "logs" config.name).value
    let line := log.line v.time (RunLog.describe ran.engine.rule ran.session.results true)
    line = "12:00:00 [RULE] a/b C:echo | echo=true | completed\n" ∧
      appendsOf (before.perform op).effects = [] ∧
      noticesOf (before.reactionsTo op) = [.logOpen] ∧
      before.Accounts op (log.path v.day, line) := by
  intro v config e ops op before ran log line
  have hkeeps : ∀ other ∈ op :: ops, other.keepsLog (e.signals.get .postRun).next = true := by
    simp [op, ops, Operation.keepsLog]
  have hsame : ∀ run ∈ e.ransOf (.configure v config :: ops), run.1.SameDay v := by
    intro run hrun
    obtain rfl := List.mem_singleton.1 hrun
    exact ⟨rfl, rfl⟩
  have hran : before.ran? op = some (v, ran) := rfl
  have hended : ran.outcome = .ok true := by rfl
  obtain ⟨happends, htold, haccounts⟩ :=
    performAll_accounts (w := v) rfl rfl hkeeps (by decide) hsame hran hended
  exact ⟨by decide +kernel, happends.trans (if_neg (by decide)), htold.trans (if_neg (by decide)),
    haccounts.2 (.inr (by decide))⟩

/-- The second run of the day that comes to its end is lost. -/
theorem secondRunOfDay_lost :
    let v : Surroundings := ⟨"20250101", "12:00:00", fun _ => true, fun _ => false⟩
    let config : Config := { Config.default with name := "a/b", logDir := some "logs" }
    let e : Engine := { Engine.new .terse with registry := Run.echoAndSeek }
    let op : Operation := .run v (.jobs [Run.echoJob]) .empty
    let before := (e.performAll [.configure v config, op]).engine
    (before.ran? op).map (fun run => run.2.outcome) = some (.ok true) ∧
      appendsOf (before.perform op).effects = [] ∧ noticesOf (before.reactionsTo op) = [] ∧
      ∀ line, ¬ before.Accounts op line := by
  intro v config e op before
  have happends : appendsOf (before.perform op).effects = [] := by rfl
  have htold : noticesOf (before.reactionsTo op) = [] := by rfl
  refine ⟨by rfl, happends, htold, fun line => ?_⟩
  rw [Accounts, happends, htold]
  simp

end Engine

end RuleEngine
