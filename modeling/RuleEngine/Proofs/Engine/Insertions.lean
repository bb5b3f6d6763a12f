import Mathlib.Data.Finset.Card
import RuleEngine.Proofs.Distinct
import RuleEngine.Proofs.Engine.History

/-!
# RuleEngine.Proofs.Engine.Insertions

The registry of an engine refines the log of what was inserted, which its history gives.

1. `Registry.Refines` relates a registry and a log; one insertion keeps it
   (`Registry.Refines.insert`), and so do all that follow (`Registry.Refines.insertAll`).
2. An insertion either adds a name or tells that a callable is replaced, so that names and
   such notices are as many as insertions (`Registry.reRegistrations_insertAll`).
3. Of all that an engine tells, only registering tells that a callable is replaced
   (`Engine.reRegistrations_perform`), but for what the reader and the handlers tell on their
   own account (`Engine.heard`).
-/

namespace RuleEngine

namespace Registry

variable {r : Registry} {log : List (String × Descriptor)}

/-! ## One insertion -/

theorem get?_insert (r : Registry) (name : String) (d : Descriptor) (other : String) :
    (r.insert name d).value.get? other =
      if other = name then some ⟨name, d.label.getD name, d.kind, d.function⟩
      else r.get? other :=
  Keyed.find?_set ..

theorem resolve_insert_self (r : Registry) (name : String) (d : Descriptor) :
    (r.insert name d).value.resolve name =
      .ok ⟨name, d.label.getD name, d.kind, d.function⟩ := by
  simp [resolve, get?_insert]

theorem resolve_insert_of_ne (r : Registry) {name other : String} (d : Descriptor)
    (h : other ≠ name) : (r.insert name d).value.resolve other = r.resolve other := by
  simp [resolve, get?_insert, h]

theorem names_insert (r : Registry) (name : String) (d : Descriptor) :
    (r.insert name d).value.names = if name ∈ r.names then r.names else r.names ++ [name] :=
  Keyed.keys_set ..

theorem has_iff (r : Registry) (name : String) : r.has name = true ↔ name ∈ r.names :=
  Keyed.find?_isSome_iff ..

theorem length_names (r : Registry) : r.names.length = r.size := List.length_map ..

/-! ## The log -/

/-- A registry that was made by the insertions of a log, the first one first. -/
structure Refines (r : Registry) (log : List (String × Descriptor)) : Prop where
  /-- The names are in the order of their first insertions. -/
  names : r.names = (log.map Prod.fst).eraseDups
  /-- No name is there twice. -/
  nodup : r.names.Nodup
  /-- There are as many callables as there are distinct names. -/
  size : r.size = (log.map Prod.fst).toFinset.card
  /-- Every callable has the name that it is found under. -/
  ownName : ∀ e ∈ r.callables, e.2.name = e.1
  /-- A name stands for what was inserted under it last; a callable that came without a label
  has the name for its label. -/
  last : ∀ before name d after, log = before ++ (name, d) :: after →
    name ∉ after.map Prod.fst →
      r.resolve name = .ok ⟨name, d.label.getD name, d.kind, d.function⟩
  /-- A name is not found when nothing was inserted under it. -/
  missing : ∀ name, r.resolve name = .error (.jobNotFound name) ↔ name ∉ log.map Prod.fst

/-- The names decide how many callables there are. -/
theorem size_eq_card (hnames : r.names = (log.map Prod.fst).eraseDups) (hnodup : r.names.Nodup) :
    r.size = (log.map Prod.fst).toFinset.card := by
  have hset : r.names.toFinset = (log.map Prod.fst).toFinset := by
    ext name
    rw [List.mem_toFinset, List.mem_toFinset, hnames, List.mem_eraseDups]
  rw [← length_names, ← List.toFinset_card_of_nodup hnodup, hset]

namespace Refines

theorem empty : Refines .empty [] where
  names := rfl
  nodup := .nil
  size := rfl
  ownName := nofun
  last _ _ _ _ h := by simp at h
  missing _ := by simp [resolve, get?, Registry.empty, Keyed.find?]

theorem mem_names (h : r.Refines log) (name : String) :
    name ∈ r.names ↔ name ∈ log.map Prod.fst := by
  rw [h.names, List.mem_eraseDups]

theorem names_insert (h : r.Refines log) (name : String) (d : Descriptor) :
    (r.insert name d).value.names = ((log ++ [(name, d)]).map Prod.fst).eraseDups := by
  have hmem := h.mem_names name
  rw [Registry.names_insert, List.map_append, List.eraseDups_append, ← h.names]
  by_cases hname : name ∈ log.map Prod.fst
  · rw [if_pos (hmem.2 hname)]
    simp [List.removeAll, hname]
  · rw [if_neg (mt hmem.1 hname)]
    simp [List.removeAll, hname, List.eraseDups_cons]

/-- What an insertion under a name does to the name that was inserted last. -/
theorem last_insert (h : r.Refines log) (name : String) (d : Descriptor)
    {before after : List (String × Descriptor)} {other : String} {d' : Descriptor}
    (hlog : log ++ [(name, d)] = before ++ (other, d') :: after)
    (hafter : other ∉ after.map Prod.fst) :
    (r.insert name d).value.resolve other =
      .ok ⟨other, d'.label.getD other, d'.kind, d'.function⟩ := by
  -- either the new entry is the last one under the name, or the last one was there before
  obtain rfl | ⟨init, final, rfl⟩ := List.eq_nil_or_concat after
  · obtain ⟨-, heq⟩ := List.append_inj' hlog rfl
    cases heq
    exact resolve_insert_self ..
  · rw [List.concat_eq_append] at hlog hafter
    have hlog' : log ++ [(name, d)] = (before ++ (other, d') :: init) ++ [final] := by
      simpa using hlog
    obtain ⟨rfl, heq⟩ := List.append_inj' hlog' rfl
    cases heq
    simp only [List.map_append, List.map_cons, List.map_nil, List.mem_append, List.mem_singleton,
      not_or] at hafter
    rw [resolve_insert_of_ne r d hafter.2]
    exact h.last before other d' init rfl hafter.1

theorem missing_insert (h : r.Refines log) (name : String) (d : Descriptor) (other : String) :
    (r.insert name d).value.resolve other = .error (.jobNotFound other) ↔
      other ∉ (log ++ [(name, d)]).map Prod.fst := by
  by_cases hname : other = name
  · subst hname
    rw [resolve_insert_self]
    simp
  · rw [resolve_insert_of_ne r d hname, h.missing other]
    simp [hname]

/-- One insertion is one entry more at the end of the log. -/
theorem insert (h : r.Refines log) (name : String) (d : Descriptor) :
    (r.insert name d).value.Refines (log ++ [(name, d)]) where
  names := h.names_insert name d
  nodup := Keyed.nodup_keys_set h.nodup
  size := size_eq_card (h.names_insert name d) (Keyed.nodup_keys_set h.nodup)
  ownName e he := by
    obtain rfl | he := Keyed.mem_set he
    · rfl
    · exact h.ownName e he
  last _ _ _ _ hlog hafter := h.last_insert name d hlog hafter
  missing := h.missing_insert name d

theorem insertAll (h : r.Refines log) (others : List (String × Descriptor)) :
    (r.insertAll others).value.Refines (log ++ others) := by
  induction others generalizing r log with
  | nil =>
    rw [List.append_nil]
    exact h
  | cons first others ih =>
    obtain ⟨name, d⟩ := first
    have hothers := ih (h.insert name d)
    rw [List.append_assoc] at hothers
    exact hothers

end Refines

end Registry

/-! ## Replaced callables -/

/-- Whether a callable is told to take the place of another one. -/
def Notice.isReRegistered : Notice → Bool
  | .reRegistered .. => true
  | .runStart .. | .jobReturned .. | .shortCircuit .. | .runEnd _ | .resultsReset _
  | .importingListed _ | .importingScanned _ | .unknownFormat _ | .textRejected | .logDirectory
  | .logOpen => false

/-- How often a callable is told to take the place of another one. -/
def reRegistrations (notices : List Notice) : Nat := notices.countP Notice.isReRegistered

@[simp] theorem reRegistrations_nil : reRegistrations [] = 0 := rfl

@[simp] theorem reRegistrations_append (notices others : List Notice) :
    reRegistrations (notices ++ others) = reRegistrations notices + reRegistrations others :=
  List.countP_append

theorem reRegistrations_cons (n : Notice) (notices : List Notice) :
    reRegistrations (n :: notices) = reRegistrations notices + if n.isReRegistered then 1 else 0 :=
  List.countP_cons

theorem reRegistrations_cons_of_other {n : Notice} (h : n.isReRegistered = false)
    (notices : List Notice) : reRegistrations (n :: notices) = reRegistrations notices :=
  List.countP_cons_of_neg (by simp [h])

namespace Registry

/-- An insertion adds a name, or it is told that a callable is replaced. -/
theorem reRegistrations_insert (r : Registry) (name : String) (d : Descriptor) :
    reRegistrations (r.insert name d).notices + (r.insert name d).value.size = r.size + 1 := by
  rw [← length_names, ← length_names, names_insert]
  by_cases h : name ∈ r.names
  · have hhas : r.has name = true := (r.has_iff name).2 h
    have htold : reRegistrations (r.insert name d).notices = 1 := by
      rw [insert, if_pos hhas]
      rfl
    rw [htold, if_pos h]
    omega
  · have hhas : ¬ r.has name = true := mt (r.has_iff name).1 h
    have htold : reRegistrations (r.insert name d).notices = 0 := by
      rw [insert, if_neg hhas]
      rfl
    rw [htold, if_neg h, List.length_append, List.length_singleton]
    omega

theorem reRegistrations_insertAll (r : Registry) (log : List (String × Descriptor)) :
    reRegistrations (r.insertAll log).notices + (r.insertAll log).value.size =
      r.size + log.length := by
  induction log generalizing r with
  | nil => simp [insertAll, Noted.plain]
  | cons first log ih =>
    obtain ⟨name, d⟩ := first
    have hfirst := r.reRegistrations_insert name d
    have hothers := ih (r.insert name d).value
    simp only [insertAll, reRegistrations_append, List.length_cons]
    omega

theorem reRegistrations_importFrom (r : Registry) (source : Source)
    (overrides : Option (List (String × Descriptor))) :
    reRegistrations (r.importFrom source overrides).notices =
      reRegistrations (r.insertAll (source.insertions overrides)).notices := by
  obtain ⟨functions, listed⟩ := source
  cases overrides with
  | some overrides => exact reRegistrations_cons_of_other rfl _
  | none => cases listed <;> exact reRegistrations_cons_of_other rfl _

end Registry

/-! ## What is told -/

/-- What an effect tells. -/
def Effect.notice? : Effect → Option Notice
  | .notice n => some n
  | .seen .. | .append .. => none

/-- What is told among effects, in order. -/
def noticesOf (effects : List Effect) : List Notice := effects.filterMap Effect.notice?

@[simp] theorem noticesOf_append (effects others : List Effect) :
    noticesOf (effects ++ others) = noticesOf effects ++ noticesOf others :=
  List.filterMap_append ..

@[simp] theorem noticesOf_map_notice (notices : List Notice) :
    noticesOf (notices.map Effect.notice) = notices := by
  induction notices with
  | nil => rfl
  | cons n notices ih => exact congrArg (n :: ·) ih

/-- What is told among happenings, in order. -/
def noticesIn (happenings : List Happening) : List Notice :=
  happenings.filterMap fun
    | .event _ => none
    | .notice n => some n

@[simp] theorem noticesIn_nil : noticesIn [] = [] := rfl

@[simp] theorem noticesIn_event (e : Event) (rest : List Happening) :
    noticesIn (.event e :: rest) = noticesIn rest := rfl

@[simp] theorem noticesIn_notice (n : Notice) (rest : List Happening) :
    noticesIn (.notice n :: rest) = n :: noticesIn rest := rfl

@[simp] theorem noticesIn_append (hs others : List Happening) :
    noticesIn (hs ++ others) = noticesIn hs ++ noticesIn others :=
  List.filterMap_append ..

@[simp] theorem noticesIn_map_notice (notices : List Notice) :
    noticesIn (notices.map .notice) = notices := by
  induction notices with
  | nil => rfl
  | cons n notices ih => exact congrArg (n :: ·) ih

/-! ## Receivers register nothing -/

theorem RunLog.reRegistrations_onEvent (w : Surroundings) (log : RunLog) (event : Event) :
    reRegistrations (noticesOf (log.onEvent w event).2) = 0 := by
  obtain h | h | ⟨file, line, h⟩ := log.onEvent_cases w event <;> rw [h] <;> rfl

namespace Signals

theorem reRegistrations_reactAll (w : Surroundings) (event : Event)
    (receivers : List (Nat × Receiver)) :
    reRegistrations (noticesOf (Signal.reactAll (Receiver.react w) event receivers).2) = 0 := by
  induction receivers with
  | nil => rfl
  | cons first receivers ih =>
    obtain ⟨id, receiver⟩ := first
    have hreact : reRegistrations (noticesOf (receiver.react w event).2) = 0 := by
      cases receiver with
      | observer name => rfl
      | runLog log => exact log.reRegistrations_onEvent w event
    simp only [Signal.reactAll, noticesOf_append, reRegistrations_append, hreact, ih]

/-- What happens is told once, whoever is connected. -/
theorem reRegistrations_deliver (w : Surroundings) (signals : Signals Receiver)
    (happenings : List Happening) :
    reRegistrations (noticesOf (signals.deliver w happenings).2) =
      reRegistrations (noticesIn happenings) := by
  induction happenings generalizing signals with
  | nil => rfl
  | cons first happenings ih =>
    cases first with
    | notice n =>
      calc reRegistrations (noticesOf (signals.deliver w (.notice n :: happenings)).2)
          = reRegistrations (n :: noticesOf (signals.deliver w happenings).2) := rfl
        _ = reRegistrations (n :: noticesIn happenings) := by
            rw [reRegistrations_cons, reRegistrations_cons, ih]
    | event event =>
      have hsend : reRegistrations (noticesOf (signals.send (Receiver.react w) event).2) = 0 :=
        reRegistrations_reactAll ..
      simp only [deliver, noticesOf_append, reRegistrations_append, hsend, ih, noticesIn_event,
        Nat.zero_add]

end Signals

/-! ## Runs register nothing -/

/-- What the handlers told, in the order of the calls. -/
def toldBy (calls : List Call) : List Notice := calls.flatMap fun call => call.reply.notices

@[simp] theorem toldBy_nil : toldBy [] = [] := rfl

@[simp] theorem toldBy_cons (call : Call) (calls : List Call) :
    toldBy (call :: calls) = call.reply.notices ++ toldBy calls := List.flatMap_cons

theorem Session.reRegistrations_record (s : Session) (job : String) (result : Value) :
    reRegistrations (s.record job result).notices = 0 := by
  simp only [record]
  split <;> rfl

theorem Call.reRegistrations_happenings (call : Call) :
    reRegistrations (noticesIn call.happenings) = reRegistrations call.reply.notices := by
  cases h : call.reply.result with
  | error failure => simp [happenings, h]
  | ok result =>
    have hrecorded : reRegistrations call.recorded.notices = 0 := by
      simp only [recorded, h]
      exact Session.reRegistrations_record ..
    simp [happenings, h, hrecorded, reRegistrations_cons, Notice.isReRegistered]

/-- In the report of a run, nobody but the handlers tells that a callable is replaced. -/
def Report.RegistersNothing (report : Report) : Prop :=
  reRegistrations (noticesIn report.happenings) = reRegistrations (toldBy report.calls)

theorem Report.RegistersNothing.after {rest : Report} (h : rest.RegistersNothing) (call : Call) :
    (Report.after call rest).RegistersNothing := by
  simp only [RegistersNothing] at h
  simp [RegistersNothing, Report.after, call.reRegistrations_happenings, h]

namespace Run

theorem Ends.registersNothing {registry : Registry} {shape : Shape} {s : Session}
    {left : List Job} {last : Report} (h : Ends registry shape s left last) :
    last.RegistersNothing := by
  cases h with
  | completed | unknown | unbound => rfl
  | failed | stopped =>
    apply Report.RegistersNothing.after
    rfl

theorem registersNothing_runJobs (registry : Registry) (shape : Shape) (jobs : List Job)
    (s : Session) : (runJobs registry shape jobs s).RegistersNothing := by
  induction jobs generalizing s with
  | nil => rfl
  | cons job jobs ih =>
    obtain ⟨call, rfl, rfl, -, hrun⟩ | ends := runJobs_cons registry shape job jobs s
    · rw [hrun]
      exact (ih call.after).after call
    · exact ends.registersNothing

theorem registersNothing_run (registry : Registry) (rule : Rule) (s : Session) :
    (run registry rule s).RegistersNothing := by
  have hjobs := registersNothing_runJobs registry rule.shape rule.jobs s
  have hending (report : Report) : reRegistrations (noticesIn (ending rule report)) = 0 := by
    rw [ending]
    split <;> rfl
  simp only [Report.RegistersNothing] at hjobs
  simp [Report.RegistersNothing, run, hjobs, hending, reRegistrations_cons, Notice.isReRegistered]

end Run

/-! ## Histories -/

namespace Engine

/-- What the reader and the handlers tell on their own account in an operation. -/
def heard (e : Engine) (op : Operation) : List Notice :=
  (op.input?.elim [] fun input => (e.reader input).notices) ++ toldBy (e.perform op).calls

/-- What readers and handlers tell on their own account in the course of operations. -/
def heardAll (e : Engine) : List Operation → List Notice
  | [] => []
  | op :: ops => e.heard op ++ (e.perform op).engine.heardAll ops

theorem reRegistrations_run (w : Surroundings) (e : Engine) (input : RuleInput) (s : Session) :
    reRegistrations (noticesOf (e.run w input s).effects) =
      reRegistrations (e.reader input).notices +
        reRegistrations (toldBy (e.run w input s).calls) := by
  cases h : (e.reader input).value with
  | error error => simp [run_of_rejected h]
  | ok rule =>
    have hrun : reRegistrations (noticesIn (Run.run e.registry rule s).happenings) =
      reRegistrations (toldBy (Run.run e.registry rule s).calls) := Run.registersNothing_run ..
    simp only [run, read, h, execute, noticesOf_append, noticesOf_map_notice,
      reRegistrations_append, Signals.reRegistrations_deliver, hrun]

theorem reRegistrations_withConfig (w : Surroundings) (e : Engine) (config : Config) :
    reRegistrations (e.withConfig w config).notices = 0 := by
  rw [withConfig]
  split
  · rfl
  · next dir _ =>
    simp only [Noted.map, RunLog.create]
    split <;> rfl

/-- Registering and importing tell that callables are replaced, and nothing else does but the
reader and the handlers. -/
theorem reRegistrations_perform (e : Engine) (op : Operation) :
    reRegistrations (noticesOf (e.perform op).effects) =
      reRegistrations (e.registry.insertAll op.insertions).notices +
        reRegistrations (e.heard op) := by
  cases op with
  | register d =>
    have htold : noticesOf (e.perform (.register d)).effects = (e.registry.register d).notices :=
      noticesOf_map_notice _
    have hinsertions : (e.registry.insertAll [(d.function.name, d)]).notices =
      (e.registry.register d).notices := List.append_nil _
    rw [htold, Operation.insertions, hinsertions]
    rfl
  | importFrom source overrides =>
    have htold : noticesOf (e.perform (.importFrom source overrides)).effects =
      (e.registry.importFrom source overrides).notices := noticesOf_map_notice _
    rw [htold, Registry.reRegistrations_importFrom]
    rfl
  | configure w config =>
    have htold : noticesOf (e.perform (.configure w config)).effects =
      (e.withConfig w config).notices := noticesOf_map_notice _
    rw [htold, reRegistrations_withConfig]
    rfl
  | read input =>
    have htold : noticesOf (e.perform (.read input)).effects = (e.reader input).notices :=
      noticesOf_map_notice _
    have hheard : e.heard (.read input) = (e.reader input).notices := List.append_nil _
    rw [htold, hheard]
    exact (Nat.zero_add _).symm
  | run w input s =>
    have hheard : e.heard (.run w input s) =
      (e.reader input).notices ++ toldBy (e.run w input s).calls := rfl
    rw [hheard, reRegistrations_append, ← reRegistrations_run]
    exact (Nat.zero_add _).symm
  | runInContext w input =>
    have hheard : e.heard (.runInContext w input) =
      (e.reader input).notices ++ toldBy (e.run w input e.session).calls := rfl
    rw [hheard, reRegistrations_append, ← reRegistrations_run]
    exact (Nat.zero_add _).symm
  | runWithImports w input s source =>
    have htold : noticesOf (e.perform (.runWithImports w input s source)).effects =
        (e.registry.importFrom source none).notices ++
          noticesOf ((e.importFrom source none).value.run w input s).effects := by
      rw [perform, Done.ofRan, runWithImports, noticesOf_append, noticesOf_map_notice]
      rfl
    have hheard : e.heard (.runWithImports w input s source) =
      (e.reader input).notices ++
        toldBy ((e.importFrom source none).value.run w input s).calls := rfl
    rw [htold, hheard, reRegistrations_append, reRegistrations_append,
      Registry.reRegistrations_importFrom, reRegistrations_run]
    rfl
  | connect | disconnect | setContext | setReader => rfl

/-- Along any operations, callables and such notices are as many as insertions, but for what
is told by others. -/
theorem reRegistrations_performAll (e : Engine) (ops : List Operation) :
    reRegistrations (noticesOf (e.performAll ops).effects) +
        (e.performAll ops).engine.registry.size =
      e.registry.size + (ops.flatMap Operation.insertions).length +
        reRegistrations (e.heardAll ops) := by
  induction ops generalizing e with
  | nil => simp [performAll, Done.quiet, noticesOf, heardAll]
  | cons op ops ih =>
    have hop := e.reRegistrations_perform op
    have hinsertions := e.registry.reRegistrations_insertAll op.insertions
    have hops := ih (e.perform op).engine
    rw [registry_perform] at hops
    simp only [performAll_cons, Done.after, noticesOf_append, reRegistrations_append, heardAll,
      List.flatMap_cons, List.length_append]
    omega

/-- **The registry refines a log of insertions**, over any history of an engine; and of what
is told, as many notices say that a callable is replaced as there are insertions of names
which are there already, but for those that the reader and the handlers give themselves. -/
theorem performAll_insertions (diagnose : Diagnosis) (ops : List Operation) :
    let e := new diagnose
    (e.performAll ops).engine.registry.Refines (ops.flatMap Operation.insertions) ∧
      reRegistrations (noticesOf (e.performAll ops).effects) =
        ((ops.flatMap Operation.insertions).length - (e.performAll ops).engine.registry.size) +
          reRegistrations (e.heardAll ops) := by
  intro e
  have htold := e.reRegistrations_performAll ops
  have hregistry := registry_performAll e ops
  have hinsertions := Registry.empty.reRegistrations_insertAll (ops.flatMap Operation.insertions)
  have hempty : e.registry.size = 0 ∧ Registry.empty.size = 0 := ⟨rfl, rfl⟩
  constructor
  · rw [hregistry]
    exact Registry.Refines.empty.insertAll _
  · have hsize : (e.performAll ops).engine.registry.size = _ := congrArg Registry.size hregistry
    have hnew : (e.registry.insertAll (ops.flatMap Operation.insertions)).value.size =
      (Registry.empty.insertAll (ops.flatMap Operation.insertions)).value.size := rfl
    omega

/-- A function is registered with a label, then a source with an empty list is imported, and
then one without a list, which registers the function again. -/
example :
    let f : Function := ⟨"f", [], none, fun s _ => ⟨.ok .null, s, []⟩⟩
    let ops : List Operation :=
      [.register ⟨some "first", .action, f⟩, .importFrom ⟨[f], some []⟩ none,
        .importFrom ⟨[f], none⟩ none]
    let done := (new .terse).performAll ops
    done.engine.registry.toList.map (fun c => (c.name, c.label, c.kind)) = [("f", "f", .job)] ∧
      reRegistrations (noticesOf done.effects) = 1 :=
  ⟨rfl, rfl⟩

end Engine

end RuleEngine
