import RuleEngine.Proofs.Run.Ledger

/-!
# RuleEngine.Proofs.Engine.History

An engine is known by its history: the operations that were performed on it.

1. `Rejects` says what an input that the reader rejects leaves behind, for each of the four
   operations that read one; it holds of every engine (`Engine.rejects`).
2. `Operation.readerAfter`, `Operation.reading` and `Operation.insertions` say of one
   operation, without performing it, which reader it leaves, what it reads, and what it
   registers.  One lemma for each says that the engine follows (`Engine.reader_perform`,
   `Engine.rule_perform`, `Engine.registry_perform`), and induction over the operations that
   it does so along a history.
3. `acceptedOps` leaves the rejected inputs out of a history; the engine is the same
   without them.
-/

namespace RuleEngine

/-! ## Operations -/

/-- An operation on an engine. -/
inductive Operation where
  /-- Registers a function under its declared name, as a kind of job. -/
  | register (d : Descriptor)
  /-- Imports a source, by the overrides if there are any. -/
  | importFrom (source : Source) (overrides : Option (List (String × Descriptor)))
  /-- Connects a receiver to a hook point. -/
  | connect (point : HookPoint) (receiver : Receiver)
  /-- Ends a connection of a hook point. -/
  | disconnect (point : HookPoint) (id : Nat)
  /-- Replaces the configuration. -/
  | configure (w : Surroundings) (config : Config)
  /-- Replaces the context session. -/
  | setContext (session : Session)
  /-- Replaces the reader of rules. -/
  | setReader (reader : RuleReader)
  /-- Reads a rule. -/
  | read (input : RuleInput)
  /-- Reads a rule and runs it on a session of the caller. -/
  | run (w : Surroundings) (input : RuleInput) (session : Session)
  /-- Reads a rule and runs it on the context session. -/
  | runInContext (w : Surroundings) (input : RuleInput)
  /-- Imports a source, then reads a rule and runs it. -/
  | runWithImports (w : Surroundings) (input : RuleInput) (session : Session) (source : Source)

/-- What operations leave behind: the engine, the calls that were made, and the effects on
the outside. -/
structure Done where
  engine : Engine
  calls : List Call
  effects : List Effect

namespace Done

/-- Nothing is called, and nothing is to be seen from outside. -/
def quiet (e : Engine) : Done := ⟨e, [], []⟩

/-- Nothing is called, but something is told. -/
def ofNoted (n : Noted Engine) : Done := ⟨n.value, [], n.notices.map Effect.notice⟩

/-- What a run leaves behind, its outcome and the session of the caller left out. -/
def ofRan (ran : Ran) : Done := ⟨ran.engine, ran.calls, ran.effects⟩

/-- What is left behind when something else was done before. -/
def after (first others : Done) : Done :=
  ⟨others.engine, first.calls ++ others.calls, first.effects ++ others.effects⟩

end Done

namespace Engine

/-- Performs an operation. -/
def perform (e : Engine) : Operation → Done
  | .register d => .ofNoted (e.register d)
  | .importFrom source overrides => .ofNoted (e.importFrom source overrides)
  | .connect point receiver => .quiet (e.connect point receiver).2
  | .disconnect point id => .quiet (e.disconnect point id).2
  | .configure w config => .ofNoted (e.withConfig w config)
  | .setContext session => .quiet (e.withContext session)
  | .setReader reader => .quiet (e.withReader reader)
  | .read input => ⟨(e.read input).2, [], (e.read input).1.notices.map Effect.notice⟩
  | .run w input s => .ofRan (e.run w input s)
  | .runInContext w input => .ofRan (e.runInContext w input)
  | .runWithImports w input s source => .ofRan (e.runWithImports w input s source)

/-- Performs operations one after the other. -/
def performAll (e : Engine) : List Operation → Done
  | [] => .quiet e
  | op :: ops => (e.perform op).after ((e.perform op).engine.performAll ops)

theorem performAll_cons (e : Engine) (op : Operation) (ops : List Operation) :
    e.performAll (op :: ops) = (e.perform op).after ((e.perform op).engine.performAll ops) := rfl

theorem performAll_append (e : Engine) (ops others : List Operation) :
    e.performAll (ops ++ others) =
      (e.performAll ops).after ((e.performAll ops).engine.performAll others) := by
  induction ops generalizing e with
  | nil => rfl
  | cons op ops ih => simp [performAll_cons, Done.after, ih]

end Engine

/-! ## Rejected inputs -/

/-- What an input that the reader of an engine rejects leaves behind.  Of each operation it
is all that there is: the engine, the outcome, the session, the calls and the effects. -/
structure Rejects (e : Engine) (input : RuleInput) (error : Error) : Prop where
  /-- Reading changes nothing. -/
  read : (e.read input).1.value = .error error ∧ (e.read input).2 = e
  /-- Running changes nothing either, and nothing but what the reader tells is told. -/
  run : ∀ w s, e.run w input s =
    ⟨e, .error error, s, [], (e.reader input).notices.map Effect.notice⟩
  /-- The context session is the one that it was. -/
  runInContext : ∀ w, e.runInContext w input =
    ⟨e, .error error, e.session, [], (e.reader input).notices.map Effect.notice⟩
  /-- The source is imported, and nothing else changes. -/
  runWithImports : ∀ w s source, e.runWithImports w input s source =
    ⟨{ e with registry := (e.registry.importFrom source none).value }, .error error, s, [],
      ((e.registry.importFrom source none).notices ++ (e.reader input).notices).map
        Effect.notice⟩

namespace Engine

/-- Every engine rejects what its reader rejects. -/
theorem rejects {e : Engine} {input : RuleInput} {error : Error}
    (h : (e.reader input).value = .error error) : Rejects e input error where
  read := by simp [read, h]
  run := run_of_rejected h
  runInContext w := by
    rw [runInContext, run_of_rejected h]
  runWithImports w s source := by
    have himported : ((e.importFrom source none).value.reader input).value = .error error := h
    rw [runWithImports, run_of_rejected himported, List.map_append]
    rfl

/-- A run does not look at the context session, and leaves it alone. -/
theorem run_withContext (w : Surroundings) (e : Engine) (context : Session) (input : RuleInput)
    (s : Session) :
    (e.withContext context).run w input s =
      { e.run w input s with engine := (e.run w input s).engine.withContext context } := by
  cases h : (e.reader input).value with
  | error error =>
    have hcontext : ((e.withContext context).reader input).value = .error error := h
    rw [run_of_rejected h, run_of_rejected hcontext]
    rfl
  | ok rule =>
    simp only [run, read, withContext, h]
    rfl

/-- The context session may as well be taken out of the engine while it is run on. -/
theorem runInContext_eq (w : Surroundings) (e : Engine) (input : RuleInput) :
    e.runInContext w input =
      let ran := (e.withContext .empty).run w input e.session
      { ran with engine := ran.engine.withContext ran.session } := by
  rw [run_withContext]
  rfl

end Engine

/-! ## What operations amount to -/

/-- What importing a source registers, by name: the overrides if there are any, else the list
of the source if it has one, else its functions, as jobs under their declared names. -/
def Source.insertions : Source → Option (List (String × Descriptor)) → List (String × Descriptor)
  | _, some overrides => overrides
  | ⟨_, some listed⟩, none => listed
  | ⟨functions, none⟩, none => functions.map fun f => (f.name, ⟨none, .job, f⟩)

namespace Operation

/-- What an operation registers, by name. -/
def insertions : Operation → List (String × Descriptor)
  | .register d => [(d.function.name, d)]
  | .importFrom source overrides => source.insertions overrides
  | .runWithImports _ _ _ source => source.insertions none
  | .connect .. | .disconnect .. | .configure .. | .setContext _ | .setReader _ | .read _
  | .run .. | .runInContext .. => []

/-- The input that an operation reads, if it reads one. -/
def input? : Operation → Option RuleInput
  | .read input | .run _ input _ | .runInContext _ input | .runWithImports _ input _ _ => some input
  | .register _ | .importFrom .. | .connect .. | .disconnect .. | .configure .. | .setContext _
  | .setReader _ => none

/-- The reader that an operation leaves. -/
def readerAfter (reader : RuleReader) : Operation → RuleReader
  | .setReader other => other
  | .register _ | .importFrom .. | .connect .. | .disconnect .. | .configure .. | .setContext _
  | .read _ | .run .. | .runInContext .. | .runWithImports .. => reader

/-- The rule that an operation reads, unless it reads none or the input is rejected. -/
def reading (reader : RuleReader) (op : Operation) : Option Rule :=
  op.input?.bind fun input => (reader input).value.toOption

/-- Whether an operation reads an input that is rejected. -/
def isRejected (reader : RuleReader) (op : Operation) : Bool :=
  op.input?.any fun input => !(reader input).value.isOk

/-- What an operation does before it reads an input, as operations of their own. -/
def imports : Operation → List Operation
  | .runWithImports _ _ _ source => [.importFrom source none]
  | .register _ | .importFrom .. | .connect .. | .disconnect .. | .configure .. | .setContext _
  | .setReader _ | .read _ | .run .. | .runInContext .. => []

/-- What is left of an operation when a rejected input is left out. -/
def accepted (reader : RuleReader) (op : Operation) : List Operation :=
  if op.isRejected reader then op.imports else [op]

theorem isRejected_iff {reader : RuleReader} {op : Operation} :
    op.isRejected reader = true ↔
      ∃ input error, op.input? = some input ∧ (reader input).value = .error error := by
  rw [isRejected]
  cases op.input? with
  | none => simp
  | some input => cases h : (reader input).value <;> simp [h, Except.isOk, Except.toBool]

theorem reading_eq_some_iff {reader : RuleReader} {op : Operation} {rule : Rule} :
    op.reading reader = some rule ↔
      ∃ input, op.input? = some input ∧ (reader input).value = .ok rule := by
  rw [reading]
  cases op.input? with
  | none => simp
  | some input => cases h : (reader input).value <;> simp [h, Except.toOption]

end Operation

/-- The rules that are read in the course of operations, in order. -/
def readings (reader : RuleReader) : List Operation → List Rule
  | [] => []
  | op :: ops => (op.reading reader).toList ++ readings (op.readerAfter reader) ops

/-- The operations without the inputs that are rejected. -/
def acceptedOps (reader : RuleReader) : List Operation → List Operation
  | [] => []
  | op :: ops => op.accepted reader ++ acceptedOps (op.readerAfter reader) ops

/-! ## One operation -/

theorem Registry.value_importFrom (r : Registry) (source : Source)
    (overrides : Option (List (String × Descriptor))) :
    (r.importFrom source overrides).value = (r.insertAll (source.insertions overrides)).value := by
  obtain ⟨functions, listed⟩ := source
  cases overrides with
  | some overrides => rfl
  | none => cases listed <;> rfl

theorem Registry.insertAll_append (r : Registry) (log others : List (String × Descriptor)) :
    (r.insertAll (log ++ others)).value = ((r.insertAll log).value.insertAll others).value := by
  induction log generalizing r with
  | nil => rfl
  | cons first log ih =>
    obtain ⟨name, d⟩ := first
    exact ih (r.insert name d).value

namespace Engine

/-- A run keeps the reader, and the jobs of the rule that is read. -/
theorem reader_rule_run (w : Surroundings) (e : Engine) (input : RuleInput) (s : Session) :
    (e.run w input s).engine.reader = e.reader ∧
      (e.run w input s).engine.rule =
        ((e.reader input).value.toOption.map Rule.jobs).getD e.rule := by
  cases h : (e.reader input).value with
  | error error =>
    rw [run_of_rejected h]
    exact ⟨rfl, rfl⟩
  | ok rule =>
    simp only [run, read, h]
    exact ⟨rfl, rfl⟩

/-- A configuration leaves the reader, the rule and the registry alone. -/
theorem withConfig_keeps (w : Surroundings) (e : Engine) (config : Config) :
    (e.withConfig w config).value.reader = e.reader ∧
      (e.withConfig w config).value.rule = e.rule ∧
      (e.withConfig w config).value.registry = e.registry := by
  rw [withConfig]
  split <;> exact ⟨rfl, rfl, rfl⟩

theorem reader_perform (e : Engine) (op : Operation) :
    (e.perform op).engine.reader = op.readerAfter e.reader := by
  cases op with
  | configure w config => exact (withConfig_keeps w e config).1
  | run w input s => exact (reader_rule_run w e input s).1
  | runInContext w input => exact (reader_rule_run w e input e.session).1
  | runWithImports w input s source =>
    exact (reader_rule_run w (e.importFrom source none).value input s).1
  | read input =>
    simp only [perform, read]
    split <;> rfl
  | register | importFrom | connect | disconnect | setContext | setReader => rfl

theorem rule_perform (e : Engine) (op : Operation) :
    (e.perform op).engine.rule = ((op.reading e.reader).map Rule.jobs).getD e.rule := by
  cases op with
  | configure w config => exact (withConfig_keeps w e config).2.1
  | run w input s => exact (reader_rule_run w e input s).2
  | runInContext w input => exact (reader_rule_run w e input e.session).2
  | runWithImports w input s source =>
    exact (reader_rule_run w (e.importFrom source none).value input s).2
  | read input =>
    simp only [perform, read, Operation.reading, Operation.input?, Option.bind_some]
    cases (e.reader input).value <;> rfl
  | register | importFrom | connect | disconnect | setContext | setReader => rfl

theorem registry_perform (e : Engine) (op : Operation) :
    (e.perform op).engine.registry = (e.registry.insertAll op.insertions).value := by
  cases op with
  | importFrom source overrides => exact Registry.value_importFrom ..
  | configure w config => exact (withConfig_keeps w e config).2.2
  | run w input s => exact registry_run w e input s
  | runInContext w input => exact registry_run w e input e.session
  | runWithImports w input s source =>
    calc (e.perform (.runWithImports w input s source)).engine.registry
        = (e.importFrom source none).value.registry := registry_run ..
      _ = (e.registry.insertAll (source.insertions none)).value := Registry.value_importFrom ..
  | read input =>
    simp only [perform, read]
    split <;> rfl
  | register | connect | disconnect | setContext | setReader => rfl

theorem performAll_singleton (e : Engine) (op : Operation) :
    (e.performAll [op]).engine = (e.perform op).engine ∧
      (e.performAll [op]).calls = (e.perform op).calls :=
  ⟨rfl, List.append_nil _⟩

/-- What is left of an operation leaves the engine as the operation does, and makes the same
calls. -/
theorem performAll_accepted (e : Engine) (op : Operation) :
    (e.performAll (op.accepted e.reader)).engine = (e.perform op).engine ∧
      (e.performAll (op.accepted e.reader)).calls = (e.perform op).calls := by
  rw [Operation.accepted]
  split
  · next h =>
    -- one of the four operations that read an input; what they leave is known as a whole
    obtain ⟨input, error, hinput, herror⟩ := Operation.isRejected_iff.1 h
    have hrejects := rejects herror
    cases op with
    | read =>
      cases hinput
      exact ⟨hrejects.read.2.symm, rfl⟩
    | run w _ s =>
      cases hinput
      simp only [Operation.imports, performAll, perform, hrejects.run]
      exact ⟨rfl, rfl⟩
    | runInContext w =>
      cases hinput
      simp only [Operation.imports, performAll, perform, hrejects.runInContext]
      exact ⟨rfl, rfl⟩
    | runWithImports w _ s source =>
      cases hinput
      simp only [Operation.imports, performAll, perform, hrejects.runWithImports]
      exact ⟨rfl, rfl⟩
    | register | importFrom | connect | disconnect | configure | setContext | setReader =>
      cases hinput
  · exact performAll_singleton e op

/-! ## Histories -/

/-- The reader of an engine is the one that was put there last. -/
theorem reader_performAll (e : Engine) (ops : List Operation) :
    (e.performAll ops).engine.reader = ops.foldl Operation.readerAfter e.reader := by
  induction ops generalizing e with
  | nil => rfl
  | cons op ops ih =>
    have hreader : (e.performAll (op :: ops)).engine.reader = _ := ih (e.perform op).engine
    rw [hreader, reader_perform, List.foldl_cons]

/-- The rule that an engine keeps is the one that was read last. -/
theorem rule_performAll (e : Engine) (ops : List Operation) :
    (e.performAll ops).engine.rule =
      ((readings e.reader ops).getLast?.map Rule.jobs).getD e.rule := by
  induction ops generalizing e with
  | nil => rfl
  | cons op ops ih =>
    have hrule : (e.performAll (op :: ops)).engine.rule = _ := ih (e.perform op).engine
    rw [hrule, reader_perform, rule_perform, readings, List.getLast?_append]
    cases (readings (op.readerAfter e.reader) ops).getLast? <;>
      cases op.reading e.reader <;> rfl

/-- The registry of an engine holds what registrations and imports put there, and nothing else. -/
theorem registry_performAll (e : Engine) (ops : List Operation) :
    (e.performAll ops).engine.registry =
      (e.registry.insertAll (ops.flatMap Operation.insertions)).value := by
  induction ops generalizing e with
  | nil => rfl
  | cons op ops ih =>
    have hregistry : (e.performAll (op :: ops)).engine.registry = _ := ih (e.perform op).engine
    rw [hregistry, registry_perform, List.flatMap_cons, Registry.insertAll_append]

/-- Without the inputs that were rejected, an engine has the same history. -/
theorem performAll_acceptedOps (e : Engine) (ops : List Operation) :
    (e.performAll (acceptedOps e.reader ops)).engine = (e.performAll ops).engine ∧
      (e.performAll (acceptedOps e.reader ops)).calls = (e.performAll ops).calls := by
  induction ops generalizing e with
  | nil => exact ⟨rfl, rfl⟩
  | cons op ops ih =>
    obtain ⟨hengine, hcalls⟩ := performAll_accepted e op
    obtain ⟨ihEngine, ihCalls⟩ := ih (e.perform op).engine
    rw [reader_perform] at ihEngine ihCalls
    rw [acceptedOps, performAll_append, performAll_cons, hengine]
    simp only [Done.after, hcalls, ihEngine, ihCalls]
    simp

end Engine

/-- What the history of an engine that was new at first says of it. -/
structure History (diagnose : Diagnosis) (ops : List Operation) (done : Done) : Prop where
  /-- The reader is the one that was put there last. -/
  reader : done.engine.reader = ops.foldl Operation.readerAfter (Rule.read diagnose)
  /-- Whatever this reader rejects changes nothing, up to imports. -/
  rejects : ∀ input error, (done.engine.reader input).value = .error error →
    Rejects done.engine input error
  /-- The rule that is kept is the last one that was read, whatever became of it. -/
  rule : done.engine.rule =
    ((readings (Rule.read diagnose) ops).getLast?.map Rule.jobs).getD []
  /-- The registry holds what registrations and imports put there. -/
  registry : done.engine.registry =
    (Registry.empty.insertAll (ops.flatMap Operation.insertions)).value
  /-- Without the inputs that were rejected, all would be the same. -/
  accepted :
    let accepted := (Engine.new diagnose).performAll (acceptedOps (Rule.read diagnose) ops)
    done.engine = accepted.engine ∧ done.calls = accepted.calls

namespace Engine

/-- **Rejected rules change nothing**, over any history of an engine, and what an engine
keeps from operation to operation is decided by its history. -/
theorem performAll_history (diagnose : Diagnosis) (ops : List Operation) :
    History diagnose ops ((new diagnose).performAll ops) where
  reader := reader_performAll (new diagnose) ops
  rejects _ _ h := Engine.rejects h
  rule := rule_performAll (new diagnose) ops
  registry := registry_performAll (new diagnose) ops
  accepted := by
    obtain ⟨hengine, hcalls⟩ := performAll_acceptedOps (new diagnose) ops
    exact ⟨hengine.symm, hcalls.symm⟩

/-- A run that breaks after its rule was read, an input that is no rule, and one that is no
rule either but comes with an import. -/
theorem performAll_history_brokenRun :
    let w : Surroundings := ⟨"20250101", "12:00:00", fun _ => true, fun _ => true⟩
    let echo : Function := ⟨"echo", [], none, fun s _ => ⟨.ok .null, s, []⟩⟩
    let ops : List Operation :=
      [.register ⟨none, .condition, echo⟩, .runInContext w (.jobs [Run.seekJob]),
        .read (.value .null), .runWithImports w (.value .null) .empty ⟨[echo], none⟩]
    let e := ((new .terse).performAll ops).engine
    e.rule = [Run.seekJob] ∧ e.registry.names = ["echo"] ∧
      (acceptedOps (Rule.read .terse) ops).length = 3 ∧
      ∃ error, Rejects e (.value .null) error := by
  intro w echo ops e
  have history := performAll_history .terse ops
  have hrule : e.rule = [Run.seekJob] := history.rule
  have hregistry : e.registry.names = ["echo"] := by rw [history.registry]; rfl
  exact ⟨hrule, hregistry, rfl, _, history.rejects (.value .null) _ rfl⟩

end Engine

end RuleEngine
