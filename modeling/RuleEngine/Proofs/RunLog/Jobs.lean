import RuleEngine.RunLog.Line

/-!
# RuleEngine.Proofs.RunLog.Jobs

The jobs of a rule can be read back from the words for them in a run log, when no name has a
blank in it.

1. `readJob?` reads the word for one job, whatever its name is (`readJob?_formatJob`).
2. `readJobs` reads the words that blanks separate.  Blanks stand between the words only, and
   the dash for no jobs is no word for a job, so that kinds and names come back
   (`readJobs_formatJobs`).
-/

namespace RuleEngine.RunLog

/-! ## One job -/

/-- What the word for a job tells about it. -/
def tagged (job : Job) : JobKind × String := (job.kind, job.name)

/-- The kind of a tag. -/
def kindOfTag? : Char → Option JobKind
  | 'C' => some .condition
  | 'A' => some .action
  | 'J' => some .job
  | _ => none

/-- Reads a word: a tag, a colon, and a name. -/
def readJob? : List Char → Option (JobKind × String)
  | tag :: ':' :: name => (kindOfTag? tag).map fun kind => (kind, String.ofList name)
  | _ => none

theorem readJob?_formatJob (job : Job) : readJob? (formatJob job).toList = some (tagged job) := by
  obtain ⟨name, kind, args⟩ := job
  cases kind <;> simp [formatJob, kindTag, readJob?, kindOfTag?, tagged]

theorem blank_mem_formatJob (job : Job) :
    ' ' ∈ (formatJob job).toList ↔ ' ' ∈ job.name.toList := by
  obtain ⟨name, kind, args⟩ := job
  cases kind <;> simp [formatJob, kindTag]

theorem colon_mem_formatJob (job : Job) : ':' ∈ (formatJob job).toList := by simp [formatJob]

/-! ## All jobs -/

/-- Reads the words for jobs in a text. -/
def readJobs (text : String) : List (JobKind × String) :=
  (text.toList.splitOn ' ').filterMap readJob?

/-- Where no name has a blank in it, the blanks separate the words for the jobs. -/
theorem splitOn_formatJobs {jobs : List Job} (hjobs : jobs ≠ [])
    (h : ∀ job ∈ jobs, ' ' ∉ job.name.toList) :
    (formatJobs jobs).toList.splitOn ' ' = jobs.map fun job => (formatJob job).toList := by
  have hwords : ∀ word ∈ jobs.map fun job => (formatJob job).toList, ' ' ∉ word := by
    intro word hword
    obtain ⟨job, hjob, rfl⟩ := List.mem_map.1 hword
    exact mt (blank_mem_formatJob job).1 (h job hjob)
  rw [formatJobs, if_neg (by simpa using hjobs), String.toList_intercalate, List.map_map]
  exact List.splitOn_intercalate ' ' hwords (by simpa using hjobs)

/-- Kinds and names are read back. -/
theorem readJobs_formatJobs {jobs : List Job} (h : ∀ job ∈ jobs, ' ' ∉ job.name.toList) :
    readJobs (formatJobs jobs) = jobs.map tagged := by
  by_cases hjobs : jobs = []
  · subst hjobs
    rfl
  · have hread : (readJob? ∘ fun job => (formatJob job).toList) = some ∘ tagged :=
      funext readJob?_formatJob
    rw [readJobs, splitOn_formatJobs hjobs h, List.filterMap_map, hread, List.filterMap_eq_map]

/-- The dash stands for no jobs only, as each job has a colon in its word. -/
theorem formatJobs_eq_dash_iff (jobs : List Job) : formatJobs jobs = "-" ↔ jobs = [] := by
  refine ⟨fun hdash => ?_, fun h => h ▸ rfl⟩
  cases jobs with
  | nil => rfl
  | cons job jobs =>
    have hcolon : ':' ∈ (formatJobs (job :: jobs)).toList := by
      cases jobs with
      | nil => simpa [formatJobs] using colon_mem_formatJob job
      | cons other jobs => simp [formatJobs, colon_mem_formatJob]
    rw [hdash] at hcolon
    exact absurd hcolon (by decide)

/-- The words tell nothing but kinds and names. -/
theorem formatJobs_congr {jobs others : List Job} (h : jobs.map tagged = others.map tagged) :
    formatJobs jobs = formatJobs others := by
  have hword : formatJob = (fun t : JobKind × String => kindTag t.1 ++ ":" ++ t.2) ∘ tagged := rfl
  have hwords : jobs.map formatJob = others.map formatJob := by
    rw [hword, ← List.map_map, h, List.map_map]
  have hempty : jobs.isEmpty = others.isEmpty := by simpa using congrArg List.isEmpty h
  rw [formatJobs, formatJobs, hempty, hwords]

/-- **The words for the jobs of a rule are unambiguous.**  Where no name has a blank in it, two
lists of jobs have the same words exactly when they are equally long and have the same kinds
and names in the same order.  Whatever the names are, the words for no jobs stand for no
others. -/
theorem formatJobs_unambiguous {jobs others : List Job}
    (hjobs : ∀ job ∈ jobs, ' ' ∉ job.name.toList)
    (hothers : ∀ job ∈ others, ' ' ∉ job.name.toList) :
    (formatJobs jobs = formatJobs others ↔
      jobs.length = others.length ∧ jobs.map tagged = others.map tagged) ∧
      ∀ rule, formatJobs rule = formatJobs [] ↔ rule = [] := by
  refine ⟨⟨fun h => ?_, fun h => formatJobs_congr h.2⟩, formatJobs_eq_dash_iff⟩
  have htagged : jobs.map tagged = others.map tagged := by
    rw [← readJobs_formatJobs hjobs, h, readJobs_formatJobs hothers]
  exact ⟨by simpa using congrArg List.length htagged, htagged⟩

/-- Names that are empty, a dash, or look like the word for a job: the words tell a job whose
name looks like a word from two jobs, and leave arguments out. -/
theorem formatJobs_unambiguous_lookalikes :
    let rule (args : Object) : List Job :=
      [⟨"", .condition, args⟩, ⟨"A:", .condition, []⟩, ⟨"-", .job, []⟩, ⟨":", .action, args⟩]
    let other : List Job :=
      [⟨"", .condition, []⟩, ⟨"", .action, []⟩, ⟨"-", .job, []⟩, ⟨":", .action, []⟩]
    (∀ job ∈ rule [("x", .null)], ' ' ∉ job.name.toList) ∧
      (∀ job ∈ rule [], ' ' ∉ job.name.toList) ∧ (∀ job ∈ other, ' ' ∉ job.name.toList) ∧
      formatJobs (rule [("x", .null)]) = formatJobs (rule []) ∧
      formatJobs (rule []) ≠ formatJobs other ∧ formatJobs [⟨"", .job, []⟩] ≠ formatJobs [] := by
  intro rule other
  have hrule : ∀ job ∈ rule [("x", .null)], ' ' ∉ job.name.toList := by decide
  have hbare : ∀ job ∈ rule [], ' ' ∉ job.name.toList := by decide
  have hother : ∀ job ∈ other, ' ' ∉ job.name.toList := by decide
  obtain ⟨hsame, hnone⟩ := formatJobs_unambiguous hrule hbare
  obtain ⟨hdiffer, -⟩ := formatJobs_unambiguous hbare hother
  refine ⟨hrule, hbare, hother, hsame.2 ⟨rfl, rfl⟩, fun h => ?_, fun h => ?_⟩
  · exact absurd (hdiffer.1 h).2 (by decide)
  · exact absurd ((hnone _).1 h) (by decide)

/-- A blank in a name makes one job look like two. -/
example :
    formatJobs [⟨"a J:b", .job, []⟩] = formatJobs [⟨"a", .job, []⟩, ⟨"b", .job, []⟩] := by rfl

end RuleEngine.RunLog
