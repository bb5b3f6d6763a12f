import RuleEngine.Job
import RuleEngine.Json.Text
import RuleEngine.Text.Blank

/-!
# RuleEngine.RunLog.Line

The words of a line in a run log: the jobs of the rule with a tag for their
kind, the recorded results, and whether the run completed.
-/

namespace RuleEngine.RunLog

/-- The tag of a kind. -/
def kindTag : JobKind → String
  | .condition => "C"
  | .action => "A"
  | .job => "J"

/-- A job: its tag and its name. -/
def formatJob (job : Job) : String := kindTag job.kind ++ ":" ++ job.name

/-- The jobs of a rule separated by blanks; a dash when there are none. -/
def formatJobs (jobs : List Job) : String :=
  if jobs.isEmpty then "-" else " ".intercalate (jobs.map formatJob)

/-- The value at a key of an entry; there is none if the entry is no
mapping. -/
def entryField (key : String) : Value → Option Value
  | .obj entries => Keyed.find? key entries
  | _ => none

/-- A recorded result: the job, and the text of the value without the
quotation marks at its ends. -/
def formatResult (entry : Value) : String :=
  let job := ((entryField "job" entry).bind Value.asString?).getD "?"
  let result := (entryField "return" entry).getD .null
  job ++ "=" ++ String.ofList (Text.trimBy (· = '"') (Json.chars result))

/-- The recorded results separated by commas. -/
def formatResults (results : List Value) : String :=
  if results.isEmpty then "no result" else ", ".intercalate (results.map formatResult)

/-- The last part of a line. -/
def status : Bool → String
  | true => "completed"
  | false => "short-circuit"

/-- What a line says about a run. -/
def describe (rule : List Job) (results : List Value) (completed : Bool) : String :=
  formatJobs rule ++ " | " ++ formatResults results ++ " | " ++ status completed

end RuleEngine.RunLog
