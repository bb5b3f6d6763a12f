import RuleEngine.RunLog.Line
import RuleEngine.Signals

/-!
# RuleEngine.RunLog

The run log of an engine: a file for each day, with one line for each run that
ended.  The file of a day is opened when the first line of that day is written;
if that fails it is told once, and the lines of that day are not written.

What the file system and the clock answer is given by `Surroundings`, so that
writing a line is a pure function of them.
-/

namespace RuleEngine

/-- The path of a name below a base.  An absolute name is a path of its own; otherwise one
separator stands between the two, unless there is no base. -/
def joinPath (base name : String) : String :=
  if name.toList.head? = some '/' then name
  else if base.toList.getLast?.all fun c => c = '/' then base ++ name
  else base ++ "/" ++ name

/-- What a run log asks of its surroundings. -/
structure Surroundings where
  /-- Today's date in eight digits. -/
  day : String
  /-- The time stamp of a line that is written now. -/
  time : String
  /-- Whether the directory of a path can be made, or is there. -/
  makesDirectory : String → Bool
  /-- Whether the file of a path can be opened for appending. -/
  opensFile : String → Bool

/-- What a receiver does to the outside. -/
inductive Effect where
  /-- An observer takes note of an event. -/
  | seen (observer : String) (event : Event)
  /-- A line is appended to a file. -/
  | append (file line : String)
  /-- Something is told. -/
  | notice (n : Notice)
deriving DecidableEq

/-- A run log. -/
structure RunLog where
  /-- The name of the engine. -/
  engine : String
  /-- The directory of its files. -/
  directory : String
  /-- The day whose file was last asked for, empty at first. -/
  day : String
  /-- The file that is open. -/
  file : Option String
deriving DecidableEq

namespace RunLog

/-- The run log of an engine below a root directory.  Its directory is made
when it is not there; if that fails it is told. -/
def create (w : Surroundings) (root engine : String) : Noted RunLog :=
  let directory := joinPath (joinPath root "rules") engine
  ⟨⟨engine, directory, "", none⟩, if w.makesDirectory directory then [] else [.logDirectory]⟩

/-- The file of a day. -/
def path (log : RunLog) (day : String) : String :=
  joinPath log.directory (day ++ "_" ++ log.engine ++ ".log")

/-- The line of a message. -/
def line (log : RunLog) (time message : String) : String :=
  time ++ " [RULE] " ++ log.engine ++ " " ++ message ++ "\n"

/-- Opens the file of the day, unless it was asked for already. -/
def openFile (w : Surroundings) (log : RunLog) : RunLog × List Effect :=
  if log.day = w.day then (log, [])
  else if w.opensFile (log.path w.day) then
    ({ log with day := w.day, file := some (log.path w.day) }, [])
  else ({ log with day := w.day }, [.notice .logOpen])

/-- Writes a message to the open file. -/
def append (w : Surroundings) (log : RunLog) (message : String) : List Effect :=
  match log.file with
  | some file => [.append file (log.line w.time message)]
  | none => []

/-- Writes a message to the file of the day; when the file has just failed to
open, nothing is written. -/
def write (w : Surroundings) (log : RunLog) (message : String) : RunLog × List Effect :=
  let (opened, effects) := log.openFile w
  (opened, if effects.isEmpty then opened.append w message else effects)

/-- Logs a run that ended. -/
def logRun (w : Surroundings) (log : RunLog) (rule : List Job) (results : List Value)
    (completed : Bool) : RunLog × List Effect :=
  log.write w (describe rule results completed)

/-- Logs the run that an event tells to have ended; other events leave no
line. -/
def onEvent (w : Surroundings) (log : RunLog) : Event → RunLog × List Effect
  | .postRun rule session completed => log.logRun w rule session.results completed
  | _ => (log, [])

/-! ## Laws -/

/-- Opening a file does nothing, or it is told that the file cannot be opened. -/
theorem openFile_cases (w : Surroundings) (log : RunLog) :
    (log.openFile w).2 = [] ∨ (log.openFile w).2 = [.notice .logOpen] := by
  rw [openFile]
  split
  · exact .inl rfl
  · split
    · exact .inl rfl
    · exact .inr rfl

/-- About an event a run log does nothing, appends a line, or tells that its file cannot be
opened. -/
theorem onEvent_cases (w : Surroundings) (log : RunLog) (event : Event) :
    (log.onEvent w event).2 = [] ∨ (log.onEvent w event).2 = [.notice .logOpen] ∨
      ∃ file line, (log.onEvent w event).2 = [.append file line] := by
  cases event with
  | postRun rule session completed =>
    simp only [onEvent, logRun, write]
    obtain h | h := log.openFile_cases w
    · simp only [h, List.isEmpty_nil, if_true, append]
      cases (log.openFile w).1.file with
      | none => exact .inl rfl
      | some file => exact .inr (.inr ⟨file, _, rfl⟩)
    · exact .inr (.inl (by rw [h]; rfl))
  | preRun | preJob | postJob => exact .inl rfl

end RunLog

end RuleEngine
