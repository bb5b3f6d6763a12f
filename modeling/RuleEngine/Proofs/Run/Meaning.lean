import RuleEngine.Proofs.Run.Outline

/-!
# RuleEngine.Proofs.Run.Meaning

What a run means.  The first `k` jobs of the rule are called and recorded, one
after the other; whether the run completes, stops or breaks is decided by the
last recorded call and by the job after it.
-/

namespace RuleEngine

/-! ## Recording -/

namespace Call

/-- The call returned a value, and the session that its handler left got one
more entry in its results, and nothing else. -/
structure Records (call : Call) (result : Value) : Prop where
  returned : call.Returned result
  results : call.after.results =
    call.reply.session.results ++ [.obj [("job", .str call.job.name), ("return", result)]]
  others : ∀ key ≠ Session.resultsKey, call.after.get? key = call.reply.session.get? key

/-- A value that is returned is recorded. -/
theorem Returned.records {call : Call} {result : Value} (h : call.Returned result) :
    call.Records result where
  returned := h
  results := by rw [after_of_returned h, Session.results_record]
  others key hkey := by rw [after_of_returned h, Session.get?_record hkey]

end Call

namespace Run

/-! ## Meaning -/

/-- What is known of a run of a rule when its first `k` jobs are recorded. -/
structure Meaning (registry : Registry) (rule : Rule) (s : Session) (ran : Ran) (k : Nat)
    (recorded : List Call) (middle : Session) : Prop where
  le_length : k ≤ rule.jobs.length
  /-- The recorded calls are those of the first `k` jobs, once each and in
  order. -/
  jobs : recorded.map Call.job = rule.jobs.take k
  /-- They are calls of the registered handlers, with bound arguments. -/
  genuine : ∀ call ∈ recorded, call.Genuine registry
  /-- Each of them returned, and recorded its result in the session that its
  handler left. -/
  returned : ∀ call ∈ recorded, ∃ result, call.Records result
  /-- Each is on the session that the one before it left. -/
  linked : Linked s recorded middle
  /-- None but the last one can stop the run. -/
  goesOn : ∀ call ∈ recorded.dropLast, ¬ call.Stopping rule.shape
  /-- The run is cut short when the last one does. -/
  stopped : ran.outcome = .ok false ↔
    ∃ call, recorded.getLast? = some call ∧ call.Stopping rule.shape
  /-- The run completes when all jobs are recorded and none stops it. -/
  completed : ran.outcome = .ok true ↔
    k = rule.jobs.length ∧ ∀ call ∈ recorded, ¬ call.Stopping rule.shape
  /-- A run without an error made no other call. -/
  ended : ∀ b, ran.outcome = .ok b → ran.calls = recorded ∧ ran.session = middle
  /-- Any other run is broken by the job after the recorded ones. -/
  broken : ∀ e, ran.outcome = .error e ↔
    (∀ call ∈ recorded, ¬ call.Stopping rule.shape) ∧
      ∃ job calls, rule.jobs[k]? = some job ∧ ran.calls = recorded ++ calls ∧
        Breaks registry middle job e calls ran.session

section

variable {registry : Registry} {rule : Rule} {s middle : Session} {ran : Ran} {passed : List Call}

theorem not_stopping_getLast {shape : Shape} (hpassed : ∀ call ∈ passed, call.Passes registry shape) :
    ¬ ∃ call, passed.getLast? = some call ∧ call.Stopping shape := by
  intro hstop
  obtain ⟨call, hlast, hstop⟩ := hstop
  exact (hpassed call (List.mem_of_getLast? hlast)).goesOn hstop

theorem Meaning.of_completed (hjobs : rule.jobs = passed.map Call.job)
    (linked : Linked s passed ran.session)
    (hpassed : ∀ call ∈ passed, call.Passes registry rule.shape)
    (houtcome : ran.outcome = .ok true) (hcalls : ran.calls = passed) :
    Meaning registry rule s ran passed.length passed ran.session where
  le_length := by simp [hjobs]
  jobs := by rw [hjobs, List.take_of_length_le (by simp)]
  genuine call hcall := (hpassed call hcall).genuine
  returned call hcall := (hpassed call hcall).returned.imp fun _ => Call.Returned.records
  linked := linked
  goesOn call hcall := (hpassed call (List.dropLast_subset _ hcall)).goesOn
  stopped := by
    rw [houtcome]
    exact iff_of_false (by simp) (not_stopping_getLast hpassed)
  completed := iff_of_true houtcome ⟨by simp [hjobs], fun call hcall => (hpassed call hcall).goesOn⟩
  ended _ _ := ⟨hcalls, rfl⟩
  broken e := by
    rw [houtcome]
    refine iff_of_false (by simp) ?_
    intro hbroken
    obtain ⟨-, job, calls, hjob, -⟩ := hbroken
    simp [hjobs] at hjob

theorem Meaning.of_stopped {call : Call} {jobs : List Job}
    (hjobs : rule.jobs = passed.map Call.job ++ call.job :: jobs)
    (linked : Linked s passed call.before)
    (hpassed : ∀ call ∈ passed, call.Passes registry rule.shape)
    (genuine : call.Genuine registry) (hstop : call.Stopping rule.shape)
    (houtcome : ran.outcome = .ok false) (hcalls : ran.calls = passed ++ [call])
    (hsession : ran.session = call.after) :
    Meaning registry rule s ran (passed.length + 1) (passed ++ [call]) call.after where
  le_length := by simp [hjobs]
  jobs := by
    rw [hjobs, List.take_append, List.take_of_length_le (by simp)]
    simp
  genuine := by
    intro other hother
    obtain hother | hother := List.mem_append.1 hother
    · exact (hpassed other hother).genuine
    · exact List.mem_singleton.1 hother ▸ genuine
  returned := by
    intro other hother
    obtain hother | hother := List.mem_append.1 hother
    · exact (hpassed other hother).returned.imp fun _ => Call.Returned.records
    · obtain ⟨result, hresult, -⟩ := hstop
      exact ⟨result, List.mem_singleton.1 hother ▸ hresult.records⟩
  linked := linked.append (.cons (.nil call.after))
  goesOn := by
    simp only [List.dropLast_concat]
    exact fun other hother => (hpassed other hother).goesOn
  stopped := iff_of_true houtcome ⟨call, by simp, hstop⟩
  completed := by
    rw [houtcome]
    refine iff_of_false (by simp) ?_
    exact fun h => h.2 call (by simp) hstop
  ended _ _ := ⟨hcalls, hsession⟩
  broken e := by
    rw [houtcome]
    refine iff_of_false (by simp) ?_
    exact fun h => h.1 call (by simp) hstop

theorem Meaning.of_broken {job : Job} {jobs : List Job} {e : Error} {calls : List Call}
    (hjobs : rule.jobs = passed.map Call.job ++ job :: jobs) (linked : Linked s passed middle)
    (hpassed : ∀ call ∈ passed, call.Passes registry rule.shape)
    (hbreaks : Breaks registry middle job e calls ran.session)
    (houtcome : ran.outcome = .error e) (hcalls : ran.calls = passed ++ calls) :
    Meaning registry rule s ran passed.length passed middle where
  le_length := by simp [hjobs]
  jobs := by
    rw [hjobs, List.take_append, List.take_of_length_le (by simp)]
    simp
  genuine call hcall := (hpassed call hcall).genuine
  returned call hcall := (hpassed call hcall).returned.imp fun _ => Call.Returned.records
  linked := linked
  goesOn call hcall := (hpassed call (List.dropLast_subset _ hcall)).goesOn
  stopped := by
    rw [houtcome]
    exact iff_of_false (by simp) (not_stopping_getLast hpassed)
  completed := by
    rw [houtcome]
    refine iff_of_false (by simp) ?_
    intro hall
    obtain ⟨hlength, -⟩ := hall
    simp [hjobs] at hlength
  ended b hb := by
    rw [houtcome] at hb
    cases hb
  broken e' := by
    have hnext : rule.jobs[passed.length]? = some job := by simp [hjobs]
    rw [houtcome]
    constructor
    · intro he
      obtain rfl : e = e' := Except.error.inj he
      exact ⟨fun call hcall => (hpassed call hcall).goesOn, job, calls, hnext, hcalls, hbreaks⟩
    · intro hbroken
      obtain ⟨-, job', calls', hnext', -, hbreaks'⟩ := hbroken
      obtain rfl : job = job' := Option.some.inj (hnext.symm.trans hnext')
      rw [hbreaks.error_unique hbreaks']

end

/-- **Every run has a meaning.** -/
theorem run_meaning (w : Surroundings) (e : Engine) (input : RuleInput) (rule : Rule) (s : Session)
    (hread : (e.reader input).value = .ok rule) :
    ∃ k recorded middle, Meaning e.registry rule s (e.run w input s) k recorded middle := by
  cases Engine.run_outline hread w s with
  | completed jobs linked passes outcome calls =>
    exact ⟨_, _, _, .of_completed jobs linked passes outcome calls⟩
  | stopped jobs linked passes genuine stopping outcome calls session =>
    exact ⟨_, _, _, .of_stopped jobs linked passes genuine stopping outcome calls session⟩
  | broken jobs linked passes breaks outcome calls =>
    exact ⟨_, _, _, .of_broken jobs linked passes breaks outcome calls⟩

/-! ### A run that breaks -/

/-- A condition that returns its argument. -/
def echoJob : Job := ⟨"echo", .condition, [("value", .bool true)]⟩

/-- An action that looks for a job which is not there. -/
def seekJob : Job := ⟨"seek", .action, []⟩

/-- The callables of the two jobs.  The second one writes to the session before
it fails. -/
def echoAndSeek : Registry where
  callables :=
    [("echo", ⟨"echo", "echo", .condition, "echo", [⟨"value", .any, none⟩], none,
        fun s arguments => ⟨.ok ((arguments.raw "value").getD .null), s, []⟩⟩),
      ("seek", ⟨"seek", "seek", .action, "seek", [], none,
        fun s _ => ⟨.error (.error (.jobNotFound "lost")), s.insert "sought" (.bool true), []⟩⟩)]

/-- The failure of a handler is not taken for an error of the engine, even when
it is one. -/
theorem run_meaning_seek :
    let e := { Engine.new .terse with registry := echoAndSeek }
    let rule : GroupedRule := ⟨[echoJob], [seekJob]⟩
    let w : Surroundings := ⟨"20250101", "12:00:00", fun _ => true, fun _ => true⟩
    let ran := e.run w (.grouped rule) .empty
    (e.reader (.grouped rule)).value = .ok (Rule.ofGrouped rule) ∧
      ran.outcome = .error (.callable (.error (.jobNotFound "lost"))) ∧
      ran.session.get? "sought" = some (.bool true) ∧
      ∃ k recorded middle,
        Meaning e.registry (Rule.ofGrouped rule) .empty ran k recorded middle :=
  ⟨rfl, by rfl, by rfl, run_meaning _ _ _ _ _ rfl⟩

end Run

end RuleEngine
