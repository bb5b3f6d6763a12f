import RuleEngine.Config

/-!
# RuleEngine.Proofs.Encoding

What is encoded is decoded as it was: jobs, grouped rules, sessions and configurations, with
the order of all keys.

An encoding leaves out what has its default, and a decoder takes more spellings than the one
that the encoding has: other names of a field or a variant, fields that are left out, lists
in place of mappings, formats in any case.  So the encoding of what is decoded is a canonical
form of the value that was given: it stands for the same thing, it is its own form, and it is
what all spellings of this thing have in common.  `Codec` says so, and all of it follows from
the one law that decoding undoes encoding (`Codec.of_decode_encode`).
-/

namespace RuleEngine

/-! ## Codecs -/

/-- A decoder and an encoding that belong together. -/
structure Codec {α : Type} (decode : Decoder α) (encode : α → Value) : Prop where
  /-- Decoding undoes encoding. -/
  decode_encode : ∀ x, decode (encode x) = .ok x
  /-- What is decoded from a value, however it is spelled, is encoded in a form that is decoded
  as the value is, and whose own form it is. -/
  canonical : ∀ v x, decode v = .ok x →
    decode (encode x) = decode v ∧ (decode (encode x)).map encode = .ok (encode x)
  /-- Two values have the same form exactly when they are spellings of the same thing. -/
  same_form_iff : ∀ v v' x x', decode v = .ok x → decode v' = .ok x' →
    (encode x = encode x' ↔ decode v = decode v')

theorem Codec.of_decode_encode {α : Type} {decode : Decoder α} {encode : α → Value}
    (h : ∀ x, decode (encode x) = .ok x) : Codec decode encode where
  decode_encode := h
  canonical v x hv := by
    rw [h, hv]
    exact ⟨rfl, rfl⟩
  same_form_iff v v' x x' hv hv' := by
    constructor
    · intro hform
      rw [hv, hv', ← h x, ← h x', hform]
    · intro hsame
      rw [hv, hv'] at hsame
      rw [Except.ok.inj hsame]

/-! ## Jobs and rules -/

namespace Decode

theorem jobKind_name (kind : JobKind) : jobKind (.str kind.name) = .ok kind := by
  cases kind <;> rfl

theorem job_toValue (job : Job) : Decode.job job.toValue = .ok job := by
  obtain ⟨name, kind, args⟩ := job
  have hkind := jobKind_name kind
  cases args with
  | nil =>
    simp [Job.toValue, Decode.job, List.foldlM, jobField, text, Except.map, bind, Except.bind,
      pure, Except.pure, hkind]
  | cons e es =>
    simp [Job.toValue, Decode.job, List.foldlM, jobField, text, object, Except.map, bind,
      Except.bind, pure, Except.pure, hkind]

/-- Jobs are decoded one after the other. -/
theorem list_toValue (jobs : List Job) :
    list Decode.job (.arr (jobs.map Job.toValue)) = .ok jobs := by
  induction jobs with
  | nil => rfl
  | cons job jobs ih =>
    rw [list] at ih
    rw [list, List.map_cons, List.mapM_cons, job_toValue, ih]
    rfl

theorem groupedRule_toValue (rule : GroupedRule) : groupedRule rule.toValue = .ok rule := by
  have hconditions := list_toValue rule.conditions
  have hactions := list_toValue rule.actions
  simp [GroupedRule.toValue, groupedRule, List.foldlM, groupedField, Except.map, bind,
    Except.bind, pure, Except.pure, hconditions, hactions]

end Decode

/-! ## Configurations -/

/-- A format is chosen by its name, and nothing is told. -/
theorem Export.Format.ofName_name (format : Export.Format) :
    Export.Format.ofName format.name = .plain format := by
  cases format <;> rfl

/-- A configuration is decoded from its value, and nothing is told. -/
theorem Config.decode_toValue (c : Config) : decode c.toValue = .plain (.ok c) := by
  obtain ⟨name, format, groupByKind, logDir⟩ := c
  have hformat := Export.Format.ofName_name format
  cases logDir <;>
    simp [toValue, decode, knownEntries, Field.ofKey?, fields, Field.key, setFields, setField,
      Decode.text, Decode.boolean, decodePath, Decode.optional, Except.map, Noted.plain, Noted.map,
      default, hformat]

/-! ## Canonical forms -/

/-- Arguments are left out of the encoding of a job when there are none. -/
theorem Job.has_args_toValue (job : Job) :
    ∃ entries, job.toValue = .obj entries ∧ ("args" ∈ Keyed.keys entries ↔ job.args ≠ []) := by
  obtain ⟨name, kind, args⟩ := job
  cases args with
  | nil => exact ⟨_, rfl, by simp [Keyed.keys]⟩
  | cons e es => exact ⟨_, rfl, by simp [Keyed.keys]⟩

/-- A log directory is left out of the encoding of a configuration when there is none. -/
theorem Config.has_logDir_toValue (c : Config) :
    ∃ entries, c.toValue = .obj entries ∧ ("log_dir" ∈ Keyed.keys entries ↔ c.logDir.isSome) := by
  obtain ⟨name, format, groupByKind, logDir⟩ := c
  cases logDir with
  | none => exact ⟨_, rfl, by simp [Keyed.keys]⟩
  | some dir => exact ⟨_, rfl, by simp [Keyed.keys]⟩

/-- **Decoding undoes encoding**, for jobs, grouped rules, sessions and configurations, though
empty arguments and an absent log directory are left out; so the encoding of what a value is
decoded as is a canonical form of the value. -/
theorem codecs :
    Codec Decode.job Job.toValue ∧ Codec Decode.groupedRule GroupedRule.toValue ∧
      Codec Decode.session Session.toValue ∧
      Codec (fun v => (Config.decode v).value) Config.toValue ∧
      (∀ job : Job, ∃ entries, job.toValue = .obj entries ∧
        ("args" ∈ Keyed.keys entries ↔ job.args ≠ [])) ∧
      ∀ c : Config, ∃ entries, c.toValue = .obj entries ∧
        ("log_dir" ∈ Keyed.keys entries ↔ c.logDir.isSome) :=
  ⟨.of_decode_encode Decode.job_toValue, .of_decode_encode Decode.groupedRule_toValue,
    .of_decode_encode fun _ => rfl,
    .of_decode_encode fun c => congrArg Noted.value c.decode_toValue, Job.has_args_toValue,
    Config.has_logDir_toValue⟩

/-- A mapping with other names of its keys and of the kind, and a list, are spellings of one
job; a list with the name of a format in capitals is one of a configuration. -/
theorem codecs_spellings :
    let args : Object := [("b", .null), ("a", .null)]
    let mapping : Value := .obj [("job_type", .str "generic"), ("arguments", .obj args),
      ("note", .null), ("name", .str "guess")]
    let list : Value := .arr [.str "guess", .obj [("job", .null)], .obj args]
    let form : Value := .obj [("name", .str "guess"), ("kind", .str "job"), ("args", .obj args)]
    let config : Value := .arr [.str "orders", .str " YML"]
    let configForm : Value := .obj [("name", .str "orders"), ("export_format", .str "yaml"),
      ("group_exports_by_kind", .bool true)]
    (Decode.job form = Decode.job mapping ∧ (Decode.job form).map Job.toValue = .ok form) ∧
      (Decode.job form = Decode.job list ∧ (Decode.job form).map Job.toValue = .ok form) ∧
      (Config.decode configForm).value = (Config.decode config).value ∧
        ((Config.decode configForm).value).map Config.toValue = .ok configForm := by
  intro args mapping list form config configForm
  have hmapping : Decode.job mapping = .ok ⟨"guess", .job, args⟩ := by rfl
  have hlist : Decode.job list = .ok ⟨"guess", .job, args⟩ := by rfl
  have hconfig : (Config.decode config).value = .ok ⟨"orders", .yaml, true, none⟩ := by rfl
  exact ⟨codecs.1.canonical _ _ hmapping, codecs.1.canonical _ _ hlist,
    codecs.2.2.2.1.canonical _ _ hconfig⟩

end RuleEngine
