import RuleEngine.Proofs.Rule.WriteBack
import RuleEngine.Proofs.Run.Outline

/-!
# RuleEngine.Proofs.Run.Gate

Conditions gate actions.  A grouped rule is run as the block of its conditions
and then the block of its actions, and the kinds that the reader gives to the
two blocks are what the run goes by: a falsy condition stops it, and a falsy
action does not.

1. `Rule.Lists` says which conditions and which actions an input holds, and
   `Rule.lists_of_read` that a grouped rule is made of these two lists.
2. `Gate` is what a run owes to them.  It is proved from the outline of the run:
   every call before the last one passes, so the position of a call in the list
   and the kind of its job say what came before it.
-/

namespace RuleEngine

/-! ## The two lists -/

/-- No key is there twice in the document, if the input is one. -/
def RuleInput.Distinct : RuleInput → Prop
  | .value v => v.Distinct
  | .text _ | .jobs _ | .grouped _ => True

namespace Rule

/-- The conditions and the actions that an input holds, in whatever order their
keys stand. -/
inductive Lists (diagnose : Diagnosis) : RuleInput → List Job → List Job → Prop
  | grouped (rule : GroupedRule) :
    Lists diagnose (.grouped rule) (rule.conditions.map (·.withKind .condition))
      (rule.actions.map (·.withKind .action))
  | value {entries : Object} {conditions actions : List Job}
    (hconditions : JobsOf (some .condition) (Keyed.find? "conditions" entries) conditions)
    (hactions : JobsOf (some .action) (Keyed.find? "actions" entries) actions) :
    Lists diagnose (.value (.obj entries)) conditions actions
  | text {text : String} {v : Value} {conditions actions : List Job}
    (hdecode : decodeText diagnose text = .ok v)
    (hlists : Lists diagnose (.value v) conditions actions) :
    Lists diagnose (.text text) conditions actions

theorem JobsOf.kind_eq {kind : JobKind} {field : Option Value} {jobs : List Job}
    (h : JobsOf (some kind) field jobs) : ∀ job ∈ jobs, job.kind = kind := by
  cases h with
  | absent => exact nofun
  | null => exact nofun
  | present h =>
    induction h with
    | nil => exact nofun
    | cons hjob _ ih =>
      cases hjob
      exact List.forall_mem_cons.2 ⟨rfl, ih⟩

variable {diagnose : Diagnosis}

theorem lists_of_ruleOf {v : Value} {rule : Rule} (h : RuleOf v rule)
    (hshape : rule.shape = .grouped) :
    ∃ conditions actions, Lists diagnose (.value v) conditions actions ∧
      Blocks rule.jobs conditions actions := by
  cases h with
  | flat => cases hshape
  | grouped _ hconditions hactions =>
    exact ⟨_, _, .value hconditions hactions, rfl, hconditions.kind_eq, hactions.kind_eq⟩

/-- A grouped rule is made of the two lists that its input holds. -/
theorem lists_of_read {input : RuleInput} {rule : Rule} (hinput : input.Distinct)
    (h : (read diagnose input).value = .ok rule) (hshape : rule.shape = .grouped) :
    ∃ conditions actions, Lists diagnose input conditions actions ∧
      Blocks rule.jobs conditions actions := by
  cases input with
  | text text =>
    rw [read] at h
    split at h
    · next v hv =>
      have hrule := (ofValue_eq_ok_iff (decodeText_distinct hv)).1 (ofDocument_eq_ok_iff.1 h)
      obtain ⟨conditions, actions, hlists, hblocks⟩ := lists_of_ruleOf hrule hshape
      exact ⟨conditions, actions, .text hv hlists, hblocks⟩
    · cases h
  | value v =>
    exact lists_of_ruleOf ((ofValue_eq_ok_iff hinput).1 (ofDocument_eq_ok_iff.1 h)) hshape
  | jobs jobs =>
    cases h
    cases hshape
  | grouped grouped =>
    cases h
    exact ⟨_, _, .grouped grouped, blocks_ofGrouped grouped⟩

namespace Blocks

variable {jobs conditions actions : List Job}

/-- A job of the list is one of the actions, behind all conditions, or one of the
conditions. -/
theorem split (h : Blocks jobs conditions actions) {front back : List Job} {job : Job}
    (hjobs : jobs = front ++ job :: back) :
    (∃ others, front = conditions ++ others ∧ actions = others ++ job :: back) ∨
      ∃ rest, conditions = front ++ job :: rest := by
  rw [h.eq_append] at hjobs
  obtain ⟨others, hfront, hactions⟩ | ⟨rest, hconditions, hrest⟩ :=
    List.append_eq_append_iff.1 hjobs
  · exact .inl ⟨others, hfront, hactions⟩
  · cases rest with
    | nil =>
      -- the list splits where the conditions end: the job is the first action
      rw [List.append_nil] at hconditions
      exact .inl ⟨[], by simp [hconditions], hrest.symm⟩
    | cons first rest =>
      obtain ⟨rfl, -⟩ := List.cons.inj hrest
      exact .inr ⟨rest, hconditions⟩

/-- What stands in front of a job of the actions: all conditions, and the actions
before it. -/
theorem before_action (h : Blocks jobs conditions actions) {front back : List Job} {job : Job}
    (hjobs : jobs = front ++ job :: back) (hjob : job.kind = .action) :
    ∃ others, front = conditions ++ others ∧ actions = others ++ job :: back := by
  cases h.split hjobs with
  | inl hactions => exact hactions
  | inr hconditions =>
    obtain ⟨rest, hrest⟩ := hconditions
    have hkind := h.conditions job (by simp [hrest])
    rw [hjob] at hkind
    cases hkind

/-- What stands in front of a job of the conditions: the conditions before it. -/
theorem before_condition (h : Blocks jobs conditions actions) {front back : List Job} {job : Job}
    (hjobs : jobs = front ++ job :: back) (hjob : job.kind = .condition) :
    front ++ [job] <+: conditions := by
  cases h.split hjobs with
  | inl hactions =>
    obtain ⟨others, -, hothers⟩ := hactions
    have hkind := h.actions job (by simp [hothers])
    rw [hjob] at hkind
    cases hkind
  | inr hconditions =>
    obtain ⟨rest, hrest⟩ := hconditions
    exact ⟨rest, by simp [hrest]⟩

end Blocks

end Rule

/-! ## The gate -/

namespace Call

/-- The call returned a truthy value. -/
def ReturnsTruthy (call : Call) : Prop := ∃ result, call.Returned result ∧ ¬ result.Falsy

/-- The call returned a falsy value. -/
def ReturnsFalsy (call : Call) : Prop := ∃ result, call.Returned result ∧ result.Falsy

theorem ReturnsFalsy.not_returnsTruthy {call : Call} (h : call.ReturnsFalsy) :
    ¬ call.ReturnsTruthy := by
  obtain ⟨result, hresult, hfalsy⟩ := h
  intro htruthy
  obtain ⟨other, hother, htruthy⟩ := htruthy
  obtain rfl : result = other := Except.ok.inj (hresult.symm.trans hother)
  exact htruthy hfalsy

/-- In a grouped rule, the calls that stop the run are those of conditions that
return a falsy value. -/
theorem stopping_grouped_iff {call : Call} :
    call.Stopping .grouped ↔ call.job.kind = .condition ∧ call.ReturnsFalsy := by
  constructor
  · intro hstop
    obtain ⟨result, hresult, hfalsy, hkind | hshape⟩ := hstop
    · exact ⟨hkind, result, hresult, hfalsy⟩
    · cases hshape
  · intro hfalsy
    obtain ⟨hkind, result, hresult, hfalsy⟩ := hfalsy
    exact ⟨result, hresult, hfalsy, .inl hkind⟩

/-- A condition that passes returned a truthy value. -/
theorem Passes.returnsTruthy {registry : Registry} {call : Call}
    (h : call.Passes registry .grouped) (hkind : call.job.kind = .condition) :
    call.ReturnsTruthy := by
  obtain ⟨result, hresult⟩ := h.returned
  exact ⟨result, hresult, fun hfalsy =>
    h.goesOn (stopping_grouped_iff.2 ⟨hkind, result, hresult, hfalsy⟩)⟩

end Call

namespace Run

/-- What a run of the conditions and then the actions owes to them. -/
structure Gate (registry : Registry) (conditions actions : List Job) (s : Session) (ran : Ran) :
    Prop where
  /-- The calls are calls of the registered handlers, -/
  genuine : ∀ call ∈ ran.calls, call.Genuine registry
  /-- each on the session that the one before it left, -/
  linked : Linked s ran.calls ran.session
  /-- and there is one for each job, in order, until the run is over. -/
  inOrder : ran.calls.map Call.job <+: conditions ++ actions
  /-- Before an action is called, every condition was called, once and in order,
  and returned a truthy value; nothing but actions was called after them. -/
  gated : ∀ before call after, ran.calls = before ++ call :: after → call.job ∈ actions →
    ∃ gates others, before = gates ++ others ∧ gates.map Call.job = conditions ∧
      (∀ gate ∈ gates, gate.ReturnsTruthy) ∧ others.map Call.job <+: actions
  /-- The run is cut short exactly when a condition returned a falsy value. -/
  stopped : ran.outcome = .ok false ↔
    ∃ call ∈ ran.calls, call.job ∈ conditions ∧ call.ReturnsFalsy
  /-- It is cut short at the first such condition. -/
  atFirst : ran.outcome = .ok false →
    ∃ before call, ran.calls = before ++ [call] ∧
      (before ++ [call]).map Call.job <+: conditions ∧
      (∀ gate ∈ before, gate.ReturnsTruthy) ∧ call.ReturnsFalsy
  /-- It completes exactly when all jobs were called and returned, the conditions
  a truthy value. -/
  completed : ran.outcome = .ok true ↔
    ran.calls.map Call.job = conditions ++ actions ∧
      (∀ call ∈ ran.calls, ∃ result, call.Returned result) ∧
      ∀ call ∈ ran.calls, call.job ∈ conditions → call.ReturnsTruthy

section

variable {registry : Registry} {rule : Rule} {s : Session} {ran : Ran}

variable {conditions actions : List Job}

/-- What was called before a call has passed. -/
theorem passes_before {registry : Registry} {shape : Shape} {passed rest before after : List Call}
    {call : Call} (hcalls : passed ++ rest = before ++ call :: after) (hrest : rest.length ≤ 1)
    (hpassed : ∀ call ∈ passed, call.Passes registry shape) :
    ∀ gate ∈ before, gate.Passes registry shape := by
  -- at most one call has not passed, so what stands before a call is within those that have
  have hlength := congrArg List.length hcalls
  simp only [List.length_append, List.length_cons] at hlength
  have hbefore : before <+: passed :=
    List.prefix_of_prefix_length_le ⟨call :: after, hcalls.symm⟩ ⟨rest, rfl⟩ (by omega)
  exact fun gate hgate => hpassed gate (hbefore.subset hgate)

theorem Outline.gated (h : Outline registry rule s ran) (hshape : rule.shape = .grouped)
    (hblocks : Rule.Blocks rule.jobs conditions actions) {before after : List Call} {call : Call}
    (hcalls : ran.calls = before ++ call :: after) (haction : call.job ∈ actions) :
    ∃ gates others, before = gates ++ others ∧ gates.map Call.job = conditions ∧
      (∀ gate ∈ gates, gate.ReturnsTruthy) ∧ others.map Call.job <+: actions := by
  obtain ⟨passed, rest, hsplit, hrest, hpassed, -, ⟨left, hjobs⟩, -⟩ := h.calls_cases
  have hbefore := passes_before (hsplit.symm.trans hcalls) hrest hpassed
  rw [hcalls, List.map_append, List.map_cons, List.append_assoc, List.cons_append] at hjobs
  obtain ⟨others, hfront, hactions⟩ :=
    hblocks.before_action hjobs.symm (hblocks.actions call.job haction)
  obtain ⟨gates, extra, rfl, hgates, hextra⟩ := List.map_eq_append_iff.1 hfront
  refine ⟨gates, extra, rfl, hgates, ?_, ?_⟩
  · intro gate hgate
    have hcondition : gate.job ∈ conditions := hgates ▸ List.mem_map_of_mem hgate
    have hpasses := hbefore gate (List.mem_append_left extra hgate)
    rw [hshape] at hpasses
    exact hpasses.returnsTruthy (hblocks.conditions gate.job hcondition)
  · exact ⟨_, hextra ▸ hactions.symm⟩

/-- A condition that returned a falsy value does not pass. -/
theorem not_passes_of_returnsFalsy {call : Call} (hshape : rule.shape = .grouped)
    (hkind : call.job.kind = .condition) (hfalsy : call.ReturnsFalsy) :
    ¬ call.Passes registry rule.shape := by
  intro hpasses
  rw [hshape] at hpasses
  exact hfalsy.not_returnsTruthy (hpasses.returnsTruthy hkind)

/-- A run in which a condition returned a falsy value is cut short. -/
theorem Outline.eq_false_of_returnsFalsy (h : Outline registry rule s ran)
    (hshape : rule.shape = .grouped) {call : Call} (hcall : call ∈ ran.calls)
    (hkind : call.job.kind = .condition) (hfalsy : call.ReturnsFalsy) :
    ran.outcome = .ok false := by
  have hnot : ¬ call.Passes registry rule.shape := not_passes_of_returnsFalsy hshape hkind hfalsy
  cases h with
  | completed jobs linked passes outcome calls =>
    rw [calls] at hcall
    exact absurd (passes call hcall) hnot
  | stopped jobs linked passes genuine stopping outcome calls session => exact outcome
  | broken jobs linked passes breaks outcome calls =>
    rw [calls] at hcall
    obtain hcall | hcall := List.mem_append.1 hcall
    · exact absurd (passes call hcall) hnot
    · obtain ⟨failure, hfailed⟩ := breaks.calls_failed call hcall
      obtain ⟨result, hresult, -⟩ := hfalsy
      cases hresult.symm.trans hfailed

/-- A run that is cut short ends with the first condition that returned a falsy
value. -/
theorem Outline.atFirst (h : Outline registry rule s ran) (hshape : rule.shape = .grouped)
    (hblocks : Rule.Blocks rule.jobs conditions actions) (hfalse : ran.outcome = .ok false) :
    ∃ before call, ran.calls = before ++ [call] ∧
      (before ++ [call]).map Call.job <+: conditions ∧
      (∀ gate ∈ before, gate.ReturnsTruthy) ∧ call.ReturnsFalsy := by
  cases h with
  | completed jobs linked passes outcome calls => cases outcome.symm.trans hfalse
  | broken jobs linked passes breaks outcome calls => cases outcome.symm.trans hfalse
  | @stopped passed call left jobs linked passes genuine stopping outcome calls session =>
    rw [hshape] at stopping passes
    obtain ⟨hkind, hfalsy⟩ := Call.stopping_grouped_iff.1 stopping
    have hprefix := hblocks.before_condition jobs hkind
    refine ⟨passed, call, calls, ?_, ?_, hfalsy⟩
    · rw [List.map_append]
      exact hprefix
    · intro gate hgate
      have hcondition : gate.job ∈ conditions :=
        hprefix.subset (List.mem_append_left _ (List.mem_map_of_mem hgate))
      exact (passes gate hgate).returnsTruthy (hblocks.conditions gate.job hcondition)

theorem Outline.completed_iff (h : Outline registry rule s ran) (hshape : rule.shape = .grouped)
    (hblocks : Rule.Blocks rule.jobs conditions actions) :
    ran.outcome = .ok true ↔
      ran.calls.map Call.job = conditions ++ actions ∧
        (∀ call ∈ ran.calls, ∃ result, call.Returned result) ∧
        ∀ call ∈ ran.calls, call.job ∈ conditions → call.ReturnsTruthy := by
  cases h with
  | completed jobs linked passes outcome calls =>
    refine iff_of_true outcome ⟨?_, ?_, ?_⟩
    · rw [calls, ← jobs, hblocks.eq_append]
    · rw [calls]
      exact fun call hcall => (passes call hcall).returned
    · rw [calls]
      rw [hshape] at passes
      exact fun call hcall hcondition =>
        (passes call hcall).returnsTruthy (hblocks.conditions call.job hcondition)
  | @stopped passed call left jobs linked passes genuine stopping outcome calls session =>
    refine iff_of_false (by simp [outcome]) ?_
    intro hall
    obtain ⟨-, -, htruthy⟩ := hall
    rw [hshape] at stopping
    obtain ⟨hkind, hfalsy⟩ := Call.stopping_grouped_iff.1 stopping
    have hcondition : call.job ∈ conditions :=
      (hblocks.before_condition jobs hkind).subset (by simp)
    exact hfalsy.not_returnsTruthy (htruthy call (by simp [calls]) hcondition)
  | broken jobs linked passes breaks outcome calls =>
    refine iff_of_false (by simp [outcome]) ?_
    intro hall
    obtain ⟨hjobs, hreturned, -⟩ := hall
    obtain ⟨rfl, -⟩ | ⟨failed, failure, rfl, -, -, -, -, hfailed⟩ := breaks.calls_cases
    · -- the job that broke the run was not called
      rw [calls, ← hblocks.eq_append, jobs] at hjobs
      simp at hjobs
    · obtain ⟨result, hresult⟩ := hreturned failed (by simp [calls])
      cases hresult.symm.trans hfailed

/-- The outline of a run of two blocks is a gate. -/
theorem Outline.gate (h : Outline registry rule s ran) (hshape : rule.shape = .grouped)
    (hblocks : Rule.Blocks rule.jobs conditions actions) :
    Gate registry conditions actions s ran where
  genuine := h.genuine
  linked := h.linked
  inOrder := by
    rw [← hblocks.eq_append]
    exact h.jobs_prefix
  gated before call after := h.gated hshape hblocks
  stopped := by
    constructor
    · intro hfalse
      obtain ⟨before, call, hcalls, hprefix, -, hfalsy⟩ := h.atFirst hshape hblocks hfalse
      exact ⟨call, by simp [hcalls], hprefix.subset (by simp), hfalsy⟩
    · intro hstop
      obtain ⟨call, hcall, hcondition, hfalsy⟩ := hstop
      exact h.eq_false_of_returnsFalsy hshape hcall (hblocks.conditions call.job hcondition) hfalsy
  atFirst := h.atFirst hshape hblocks
  completed := h.completed_iff hshape hblocks

end

/-- **Conditions gate actions.** -/
theorem conditions_gate_actions (diagnose : Diagnosis) (w : Surroundings) (e : Engine)
    (input : RuleInput) (rule : Rule) (s : Session) (hreader : e.reader = Rule.read diagnose)
    (hinput : input.Distinct) (hread : (Rule.read diagnose input).value = .ok rule)
    (hshape : rule.shape = .grouped) :
    ∃ conditions actions, Rule.Lists diagnose input conditions actions ∧
      Rule.Blocks rule.jobs conditions actions ∧
      Gate e.registry conditions actions s (e.run w input s) := by
  obtain ⟨conditions, actions, hlists, hblocks⟩ := Rule.lists_of_read hinput hread hshape
  have houtline := Engine.run_outline (hreader ▸ hread : (e.reader input).value = .ok rule) w s
  exact ⟨conditions, actions, hlists, hblocks, houtline.gate hshape hblocks⟩

/-- A function that takes nothing and returns a truth value. -/
def constant (name : String) (b : Bool) : String × Callable :=
  (name, ⟨name, name, .job, name, [], none, fun s _ => ⟨.ok (.bool b), s, []⟩⟩)

/-- A function that returns null and leaves a mark in the session. -/
def marking : String × Callable :=
  ("mark", ⟨"mark", "mark", .job, "mark", [], none,
    fun s _ => ⟨.ok .null, s.insert "marked" (.bool true), []⟩⟩)

/-- A document with a mark among its actions, which stand in front, and conditions of the
given names. -/
def gatedMark (conditions : List String) : Value :=
  .obj [("actions", .arr [.obj [("name", .str "mark")], .obj [("name", .str "no")]]),
    ("conditions",
      .arr (conditions.map fun name => .obj [("kind", .str "Job"), ("name", .str name)]))]

/-- A falsy condition keeps the actions from being called; falsy actions stop nothing. -/
theorem conditions_gate_actions_gatedMark :
    let e : Engine :=
      { Engine.new .terse with
        registry := ⟨[constant "yes" true, constant "no" false, marking]⟩ }
    let w : Surroundings := ⟨"20250101", "12:00:00", fun _ => true, fun _ => true⟩
    let actions : List Job := [⟨"mark", .action, []⟩, ⟨"no", .action, []⟩]
    let opened := e.run w (.value (gatedMark ["yes"])) .empty
    let closed := e.run w (.value (gatedMark ["yes", "no", "yes"])) .empty
    (e.reader = Rule.read .terse ∧
      (gatedMark ["yes"]).Distinct ∧ (gatedMark ["yes", "no", "yes"]).Distinct ∧
      (Rule.read .terse (.value (gatedMark ["yes"]))).value =
        .ok ⟨⟨"yes", .condition, []⟩ :: actions, .grouped⟩ ∧
      (Rule.read .terse (.value (gatedMark ["yes", "no", "yes"]))).value =
        .ok ⟨[⟨"yes", .condition, []⟩, ⟨"no", .condition, []⟩, ⟨"yes", .condition, []⟩] ++ actions,
          .grouped⟩) ∧
      (opened.outcome = .ok true ∧ opened.session.get? "marked" = some (.bool true) ∧
        ∃ conditions actions, Rule.Lists .terse (.value (gatedMark ["yes"])) conditions actions ∧
          Gate e.registry conditions actions .empty opened) ∧
      closed.outcome = .ok false ∧ closed.session.get? "marked" = none ∧
        closed.calls.map (·.job.name) = ["yes", "no"] ∧
        ∃ conditions actions,
          Rule.Lists .terse (.value (gatedMark ["yes", "no", "yes"])) conditions actions ∧
            Gate e.registry conditions actions .empty closed := by
  intro e w actions opened closed
  have hdistinct (conditions : List String) : (gatedMark conditions).Distinct := by
    simp [gatedMark, Value.Distinct, Value.DistinctEntries, Value.distinctItems_iff]
  obtain ⟨conditions, others, hlists, -, hgate⟩ :=
    conditions_gate_actions .terse w e (.value (gatedMark ["yes"])) _ .empty rfl (hdistinct _) rfl
      rfl
  obtain ⟨conditions', others', hlists', -, hgate'⟩ :=
    conditions_gate_actions .terse w e (.value (gatedMark ["yes", "no", "yes"])) _ .empty rfl
      (hdistinct _) rfl rfl
  exact ⟨⟨rfl, hdistinct _, hdistinct _, rfl, rfl⟩,
    ⟨rfl, rfl, conditions, others, hlists, hgate⟩,
    rfl, rfl, rfl, conditions', others', hlists', hgate'⟩

end Run

end RuleEngine
