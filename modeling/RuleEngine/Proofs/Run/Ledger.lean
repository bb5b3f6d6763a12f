import RuleEngine.Proofs.Run.Meaning

/-!
# RuleEngine.Proofs.Run.Ledger

The results of a session are a ledger of the calls that returned: a run adds one
entry for each of them, in order, and the engine writes to no other key.

1. `Call.KeepsOthers` is what recording leaves alone, whatever the handler did;
   it holds of every call (`Call.keepsOthers`).
2. `Call.results_after` says what one call adds to the results when its handler
   leaves them alone, and `results_linked` what a run adds, by induction over its
   calls.
3. `Engine.runAll` runs one input after the other on one session; what holds of
   every run and the session it was given holds along the whole sequence
   (`eachRun_runAll`).
-/

namespace RuleEngine

/-! ## The other keys -/

namespace Keyed

variable {α : Type}

/-- Setting a key leaves the keys other than it in their order. -/
theorem filter_keys_set (key : String) (value : α) (o : Keyed α) :
    (keys (set key value o)).filter (· ≠ key) = (keys o).filter (· ≠ key) := by
  rw [keys_set]
  split
  · rfl
  · simp

end Keyed

namespace Session

/-- Recording leaves the keys other than that of the results in their order. -/
theorem filter_keys_record (s : Session) (job : String) (result : Value) :
    (s.record job result).value.keys.filter (· ≠ resultsKey) = s.keys.filter (· ≠ resultsKey) := by
  rw [record_eq_insert]
  exact Keyed.filter_keys_set ..

end Session

namespace Call

/-- What the engine leaves alone after a call: every key but that of the results
holds the value that the handler left there, and these keys keep their order. -/
structure KeepsOthers (call : Call) : Prop where
  values : ∀ key ≠ Session.resultsKey, call.after.get? key = call.reply.session.get? key
  order : call.after.keys.filter (· ≠ Session.resultsKey) =
    call.reply.session.keys.filter (· ≠ Session.resultsKey)

theorem keepsOthers (call : Call) : call.KeepsOthers := by
  cases h : call.reply.result with
  | error failure =>
    have hafter : call.after = call.reply.session := after_of_failed h
    exact ⟨fun key _ => by rw [hafter], by rw [hafter]⟩
  | ok result =>
    have hreturned : call.Returned result := h
    constructor
    · intro key hkey
      rw [after_of_returned hreturned, Session.get?_record hkey]
    · rw [after_of_returned hreturned, Session.filter_keys_record]

end Call

/-! ## The results -/

/-- A handler that leaves the value at the key of the results as it found it. -/
def Handler.KeepsResults (handler : Handler) : Prop :=
  ∀ s arguments, (handler s arguments).session.get? Session.resultsKey =
    s.get? Session.resultsKey

/-- All handlers of the registry leave the results as they find them. -/
def Registry.KeepsResults (registry : Registry) : Prop :=
  ∀ name callable, registry.get? name = some callable →
    Handler.KeepsResults callable.function.handler

namespace Call

/-- The entry that a call adds to the results, if it returned: the name of its job and what it
returned. -/
def recordedEntry (call : Call) : Option Value :=
  call.result?.map fun result => .obj [("job", .str call.job.name), ("return", result)]

/-- A call adds its entry to the results, and nothing when it failed. -/
theorem results_after {registry : Registry} {call : Call} (hkeeps : registry.KeepsResults)
    (h : call.Genuine registry) :
    call.after.results = call.before.results ++ call.recordedEntry.toList := by
  obtain ⟨callable, found, -, hcall⟩ := h
  have hreply : call.reply.session.results = call.before.results := by
    have hget := hkeeps call.job.name callable found call.before call.arguments
    rw [← hcall]
    simp only [Session.results, hget]
  cases hresult : call.reply.result with
  | error failure =>
    rw [after_of_failed hresult, hreply]
    simp [recordedEntry, result?, hresult, Except.toOption]
  | ok result =>
    rw [after_of_returned hresult, Session.results_record, hreply]
    simp [recordedEntry, result?, hresult, Except.toOption]

end Call

/-- The entries that calls add to the results, in the order of the calls. -/
def entriesOf (calls : List Call) : List Value := calls.filterMap Call.recordedEntry

/-- Calls one after the other add their entries, in order. -/
theorem results_linked {registry : Registry} (hkeeps : registry.KeepsResults) {s t : Session}
    {calls : List Call} (linked : Linked s calls t) (h : ∀ call ∈ calls, call.Genuine registry) :
    t.results = s.results ++ entriesOf calls := by
  induction linked with
  | nil s => simp [entriesOf]
  | @cons call calls t rest ih =>
    obtain ⟨hcall, hcalls⟩ := List.forall_mem_cons.1 h
    calc t.results
        = call.after.results ++ entriesOf calls := ih hcalls
      _ = call.before.results ++ call.recordedEntry.toList ++ entriesOf calls := by
          rw [Call.results_after hkeeps hcall]
      _ = call.before.results ++ entriesOf (call :: calls) := by
          cases hentry : call.recordedEntry <;> simp [entriesOf, hentry]

/-! ## One run -/

/-- What every run leaves alone: the registered handlers are called one after the other
on one session, and after each call all keys but that of the results are as the handler
left them. -/
structure Ran.KeepsOthers (registry : Registry) (s : Session) (ran : Ran) : Prop where
  genuine : ∀ call ∈ ran.calls, call.Genuine registry
  linked : Linked s ran.calls ran.session
  others : ∀ call ∈ ran.calls, call.KeepsOthers

/-- What a run adds to the results: one entry for each call that returned. -/
def Ran.AddsEntries (s : Session) (ran : Ran) : Prop :=
  ran.session.results = s.results ++ entriesOf ran.calls

namespace Engine

variable {e : Engine}

theorem registry_run (w : Surroundings) (e : Engine) (input : RuleInput) (s : Session) :
    (e.run w input s).engine.registry = e.registry := by
  cases h : (e.reader input).value with
  | error error => rw [run_of_rejected h]
  | ok rule =>
    simp only [run, read, h]
    rfl

theorem run_keepsOthers (w : Surroundings) (e : Engine) (input : RuleInput) (s : Session) :
    Ran.KeepsOthers e.registry s (e.run w input s) := by
  cases h : (e.reader input).value with
  | error error =>
    rw [run_of_rejected h]
    exact ⟨nofun, .nil s, nofun⟩
  | ok rule =>
    have houtline := run_outline h w s
    exact ⟨houtline.genuine, houtline.linked, fun call _ => call.keepsOthers⟩

theorem run_addsEntries (hkeeps : e.registry.KeepsResults) (w : Surroundings) (input : RuleInput)
    (s : Session) : Ran.AddsEntries s (e.run w input s) := by
  cases h : (e.reader input).value with
  | error error =>
    rw [run_of_rejected h]
    simp [Ran.AddsEntries, entriesOf]
  | ok rule =>
    have houtline := run_outline h w s
    exact results_linked hkeeps houtline.linked houtline.genuine

/-! ## Runs one after the other -/

/-- Runs inputs one after the other on one session: each run is by the engine and on
the session that the run before it left. -/
def runAll (e : Engine) (s : Session) : List (Surroundings × RuleInput) → List Ran
  | [] => []
  | (w, input) :: inputs =>
    e.run w input s :: (e.run w input s).engine.runAll (e.run w input s).session inputs

end Engine

/-- Each of the runs is related to the session that was left before it. -/
inductive EachRun (P : Session → Ran → Prop) : Session → List Ran → Prop
  | nil (s : Session) : EachRun P s []
  | cons {s : Session} {ran : Ran} {rans : List Ran} (first : P s ran)
    (rest : EachRun P ran.session rans) : EachRun P s (ran :: rans)

/-- What holds of a run by any engine with the registry holds of each run. -/
theorem Engine.eachRun_runAll {P : Session → Ran → Prop} {registry : Registry}
    (h : ∀ (w : Surroundings) (e : Engine) (input : RuleInput) (s : Session),
      e.registry = registry → P s (e.run w input s))
    (e : Engine) (s : Session) (inputs : List (Surroundings × RuleInput))
    (he : e.registry = registry) : EachRun P s (e.runAll s inputs) := by
  induction inputs generalizing e s with
  | nil => exact .nil s
  | cons first inputs ih =>
    obtain ⟨w, input⟩ := first
    exact .cons (h w e input s he) (ih _ _ ((registry_run w e input s).trans he))

/-- **The results ledger.**  Along any sequence of runs on one session, whatever they
come to, the engine touches nothing but the results; and where the handlers leave
these alone, each run adds the entries of its calls that returned. -/
theorem Engine.runAll_ledger (e : Engine) (s : Session)
    (inputs : List (Surroundings × RuleInput)) :
    EachRun (Ran.KeepsOthers e.registry) s (e.runAll s inputs) ∧
      (e.registry.KeepsResults → EachRun Ran.AddsEntries s (e.runAll s inputs)) := by
  constructor
  · exact eachRun_runAll (fun w e input s he => he ▸ run_keepsOthers w e input s) e s inputs rfl
  · intro hkeeps
    exact eachRun_runAll (fun w e input s he => run_addsEntries (he ▸ hkeeps) w input s) e s
      inputs rfl

/-- The handlers of `Run.echoAndSeek` write to no results. -/
theorem Run.keepsResults_echoAndSeek : Run.echoAndSeek.KeepsResults := by
  intro name callable h s arguments
  simp only [Registry.get?, Run.echoAndSeek, Keyed.find?] at h
  split_ifs at h
  · cases h
    rfl
  · cases h
    exact (Session.get?_insert ..).trans (if_neg (by decide))

/-- A run, an input that is no rule, and a run that fails, on a session whose results
are no list at first. -/
theorem Engine.runAll_ledger_noList :
    let e := { Engine.new .terse with registry := Run.echoAndSeek }
    let w : Surroundings := ⟨"20250101", "12:00:00", fun _ => true, fun _ => true⟩
    let s : Session := ⟨[("results", .str "none"), ("kept", .null)]⟩
    let inputs : List (Surroundings × RuleInput) :=
      [(w, .jobs [Run.echoJob, Run.echoJob]), (w, .value .null),
        (w, .jobs [Run.echoJob, Run.seekJob])]
    let echoed : Value := .obj [("job", .str "echo"), ("return", .bool true)]
    e.registry.KeepsResults ∧
      (e.runAll s inputs).map (fun ran => ran.outcome.isOk) = [true, false, false] ∧
      (e.runAll s inputs).map (fun ran => ran.session.get? "results") =
        [some (.arr [echoed, echoed]), some (.arr [echoed, echoed]),
          some (.arr [echoed, echoed, echoed])] ∧
      EachRun Ran.AddsEntries s (e.runAll s inputs) :=
  ⟨Run.keepsResults_echoAndSeek, by rfl, by rfl,
    (Engine.runAll_ledger _ _ _).2 Run.keepsResults_echoAndSeek⟩

end RuleEngine
