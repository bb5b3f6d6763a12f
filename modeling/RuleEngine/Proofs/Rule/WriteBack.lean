import RuleEngine.Decode
import RuleEngine.Proofs.Rule.Grammar

/-!
# RuleEngine.Proofs.Rule.WriteBack

Native inputs and the documents they are written as mean the same rule, and
every rule that is read can be written as a document of itself.

* `readJob_toValue` — a written job is read as it was, under the kind that the
  list implies, if it implies one;
* `jobs_of_grouped` — the jobs of a grouped rule are a block of conditions and
  then a block of actions, whatever it was read from; so a filter on the kinds
  gives the two lists back.

Nothing is asked of the names and the arguments of the jobs.
-/

namespace RuleEngine

/-- A rule as a document: the list of its jobs when it is flat, else its
conditions and its actions. -/
def Rule.toValue (rule : Rule) : Value :=
  match rule.shape with
  | .flat => .arr (rule.jobs.map Job.toValue)
  | .grouped =>
    GroupedRule.toValue
      ⟨rule.jobs.filter (·.kind = .condition), rule.jobs.filter (·.kind = .action)⟩

namespace Rule

variable {diagnose : Diagnosis}

/-! ## Writing -/

/-- A kind is read from its name. -/
theorem ofText_name (kind : JobKind) : JobKind.ofText kind.name = .ok kind := by
  cases kind <;> rfl

@[simp] theorem withKind_kind (job : Job) : job.withKind job.kind = job := rfl

theorem withKind_of_kind {job : Job} {kind : JobKind} (h : job.kind = kind) :
    job.withKind kind = job := h ▸ rfl

theorem map_withKind_of_kind {jobs : List Job} {kind : JobKind}
    (h : ∀ job ∈ jobs, job.kind = kind) : jobs.map (·.withKind kind) = jobs := by
  rw [List.map_congr_left fun job hjob => withKind_of_kind (h job hjob), List.map_id']

/-- A written job is read as it was. -/
theorem readJob_toValue (implied : Option JobKind) (index : Nat) (job : Job) :
    readJob implied index job.toValue = .ok (job.withKind (implied.getD job.kind)) := by
  have hkind : readKind job.name (some (.str job.kind.name)) = .ok job.kind := ofText_name job.kind
  cases hargs : job.args with
  | nil =>
    rw [Job.toValue, hargs, List.isEmpty_nil, if_pos rfl, readJob_obj (by simp [Keyed.keys])]
    simp [Keyed.find?, either, readName, readArgs, hkind, bind, Except.bind, Job.withKind, hargs]
  | cons e es =>
    rw [Job.toValue, hargs, if_neg (by simp), readJob_obj (by simp [Keyed.keys])]
    simp [Keyed.find?, either, readName, readArgs, hkind, bind, Except.bind, Job.withKind, hargs]

theorem readJobs_toValue (implied : Option JobKind) (index : Nat) (jobs : List Job) :
    readJobs implied index (jobs.map Job.toValue) =
      .ok (jobs.map fun job => job.withKind (implied.getD job.kind)) := by
  induction jobs generalizing index with
  | nil => rfl
  | cons job jobs ih =>
    rw [List.map_cons, readJobs, readJob_toValue, ih]
    rfl

/-- The list of the written jobs is a flat rule of these jobs. -/
theorem read_jobs_toValue (jobs : List Job) :
    read diagnose (.value (.arr (jobs.map Job.toValue))) = read diagnose (.jobs jobs) := by
  have hjobs := readJobs_toValue none 0 jobs
  simp only [Option.getD_none, withKind_kind, List.map_id'] at hjobs
  simp only [read, ofDocument, ofValue, hjobs]
  rfl

/-- A written grouped rule is that rule. -/
theorem read_grouped_toValue (rule : GroupedRule) :
    read diagnose (.value rule.toValue) = read diagnose (.grouped rule) := by
  have hconditions := readJobs_toValue (some .condition) 0 rule.conditions
  have hactions := readJobs_toValue (some .action) 0 rule.actions
  simp only [Option.getD_some] at hconditions hactions
  have hread : ofValue rule.toValue = .ok (ofGrouped rule) := by
    rw [GroupedRule.toValue, ofValue, readGrouped_eq (by simp [Keyed.keys])]
    simp [Keyed.has, Keyed.find?, readList, hconditions, hactions, bind, Except.bind, ofGrouped]
  rw [read, read, ofDocument, hread]
  rfl

/-! ## Blocks -/

theorem readJob_kind {kind : JobKind} {index : Nat} {v : Value} {job : Job}
    (h : readJob (some kind) index v = .ok job) : job.kind = kind := by
  cases v with
  | obj entries =>
    simp only [readJob, bind_eq_ok_iff] at h
    obtain ⟨name, -, args, -, declared, -, hjob⟩ := h
    cases hjob
    rfl
  | null | bool | num | str | arr => cases h

theorem readJobs_kind {kind : JobKind} {index : Nat} {items : List Value} {jobs : List Job}
    (h : readJobs (some kind) index items = .ok jobs) : ∀ job ∈ jobs, job.kind = kind := by
  induction items generalizing index jobs with
  | nil =>
    cases h
    exact nofun
  | cons item items ih =>
    simp only [readJobs, bind_eq_ok_iff] at h
    obtain ⟨job, hjob, rest, hrest, hjobs⟩ := h
    cases hjobs
    exact List.forall_mem_cons.2 ⟨readJob_kind hjob, ih hrest⟩

/-- A block of conditions and then a block of actions. -/
structure Blocks (jobs conditions actions : List Job) : Prop where
  eq_append : jobs = conditions ++ actions
  conditions : ∀ job ∈ conditions, job.kind = .condition
  actions : ∀ job ∈ actions, job.kind = .action

theorem blocks_ofGrouped (rule : GroupedRule) :
    Blocks (ofGrouped rule).jobs (rule.conditions.map (·.withKind .condition))
      (rule.actions.map (·.withKind .action)) where
  eq_append := rfl
  conditions := by simp [Job.withKind]
  actions := by simp [Job.withKind]

theorem blocks_of_ofValue {v : Value} {rule : Rule} (h : ofValue v = .ok rule)
    (hshape : rule.shape = .grouped) : ∃ conditions actions, Blocks rule.jobs conditions actions := by
  cases v with
  | arr items =>
    rw [ofValue] at h
    cases hjobs : readJobs none 0 items with
    | error fault => simp [hjobs, Except.map] at h
    | ok jobs =>
      rw [hjobs] at h
      cases h
      cases hshape
  | obj entries =>
    rw [ofValue, readGrouped] at h
    split at h
    · cases h
    · simp only [bind_eq_ok_iff] at h
      obtain ⟨_, -, _, -, conditions, hconditions, actions, hactions, hrule⟩ := h
      cases hrule
      exact ⟨conditions, actions, rfl, readJobs_kind hconditions, readJobs_kind hactions⟩
  | null | bool | num | str => cases h

/-- The jobs of a grouped rule stand in two blocks, whatever it was read from. -/
theorem jobs_of_grouped {input : RuleInput} {rule : Rule}
    (h : (read diagnose input).value = .ok rule) (hshape : rule.shape = .grouped) :
    ∃ conditions actions, Blocks rule.jobs conditions actions := by
  cases input with
  | text text =>
    rw [read] at h
    split at h
    · exact blocks_of_ofValue (ofDocument_eq_ok_iff.1 h) hshape
    · cases h
  | value v => exact blocks_of_ofValue (ofDocument_eq_ok_iff.1 h) hshape
  | jobs jobs =>
    cases h
    cases hshape
  | grouped grouped =>
    cases h
    exact ⟨_, _, blocks_ofGrouped grouped⟩

namespace Blocks

variable {jobs conditions actions : List Job}

theorem filter_condition (h : Blocks jobs conditions actions) :
    jobs.filter (·.kind = .condition) = conditions := by
  rw [h.eq_append, List.filter_append, List.filter_eq_self.2, List.filter_eq_nil_iff.2,
    List.append_nil]
  · intro job hjob
    simp [h.actions job hjob]
  · intro job hjob
    simp [h.conditions job hjob]

theorem filter_action (h : Blocks jobs conditions actions) :
    jobs.filter (·.kind = .action) = actions := by
  rw [h.eq_append, List.filter_append, List.filter_eq_nil_iff.2, List.filter_eq_self.2,
    List.nil_append]
  · intro job hjob
    simp [h.actions job hjob]
  · intro job hjob
    simp [h.conditions job hjob]

/-- Giving the blocks their kinds changes nothing. -/
theorem ofGrouped_eq (h : Blocks jobs conditions actions) :
    ofGrouped ⟨conditions, actions⟩ = ⟨jobs, .grouped⟩ := by
  rw [ofGrouped, map_withKind_of_kind h.conditions, map_withKind_of_kind h.actions, h.eq_append]

end Blocks

/-! ## Reading back -/

/-- Every rule that is read is read again from the document that it is written
as. -/
theorem read_toValue_of_read {input : RuleInput} {rule : Rule}
    (h : (read diagnose input).value = .ok rule) :
    (read diagnose (.value rule.toValue)).value = .ok rule := by
  obtain ⟨jobs, shape⟩ := rule
  cases shape with
  | flat =>
    rw [toValue, read_jobs_toValue]
    rfl
  | grouped =>
    -- the filters on the kinds cut the jobs where the reader put them together
    obtain ⟨conditions, actions, hblocks⟩ := jobs_of_grouped h rfl
    rw [toValue, read_grouped_toValue, hblocks.filter_condition, hblocks.filter_action]
    simp only [read, Noted.plain, hblocks.ofGrouped_eq]

/-- **Native and document inputs mean the same rule**: jobs and grouped rules are
read alike from themselves and from what they are written as, and so every rule
that is read can be written back. -/
theorem read_written :
    (∀ jobs : List Job,
      read diagnose (.value (.arr (jobs.map Job.toValue))) = read diagnose (.jobs jobs) ∧
        (read diagnose (.jobs jobs)).value = .ok ⟨jobs, .flat⟩) ∧
      (∀ rule : GroupedRule,
        read diagnose (.value rule.toValue) = read diagnose (.grouped rule) ∧
          (read diagnose (.grouped rule)).value =
            .ok ⟨rule.conditions.map (·.withKind .condition) ++
              rule.actions.map (·.withKind .action), .grouped⟩) ∧
      ∀ (input : RuleInput) (rule : Rule), (read diagnose input).value = .ok rule →
        (read diagnose (.value rule.toValue)).value = .ok rule :=
  ⟨fun jobs => ⟨read_jobs_toValue jobs, rfl⟩, fun rule => ⟨read_grouped_toValue rule, rfl⟩,
    fun _ _ => read_toValue_of_read⟩

/-- Jobs whose kinds are not those of their lists. -/
def strayJobs : GroupedRule :=
  ⟨[⟨"check", .action, []⟩], [⟨"notify", .job, [("to", .str "x"), ("cc", .null)]⟩]⟩

theorem read_written_strayJobs :
    (read .terse (.grouped strayJobs)).value = .ok (ofGrouped strayJobs) ∧
      (read .terse (.value (ofGrouped strayJobs).toValue)).value = .ok (ofGrouped strayJobs) :=
  ⟨rfl, read_written.2.2 (.grouped strayJobs) (ofGrouped strayJobs) rfl⟩

end Rule

end RuleEngine
