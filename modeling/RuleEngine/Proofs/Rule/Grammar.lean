import RuleEngine.Proofs.Distinct

/-!
# RuleEngine.Proofs.Rule.Grammar

The grammar of rule documents, and what a document of it means.

1. `IsRule` says which documents are rules; it mentions no reader.
2. `RuleOf` says which rule a document is: the jobs of its lists in order, with
   the kinds that the lists imply.
3. The reader gives a rule exactly when the document is one, and then that rule.

The reader takes the fields of a mapping out one after the other, which moves
the entries that are left.  As long as no key is there twice, every field is
found where it was (`readJob_obj`, `readGrouped_eq`), and what is read is decided by the
fields alone: one lemma for each part of the reader says when it succeeds.
-/

namespace RuleEngine

namespace Rule

/-! ## Grammar -/

/-- The value at the first of two keys that is present. -/
def either (first second : String) (entries : Object) : Option Value :=
  (Keyed.find? first entries).or (Keyed.find? second entries)

/-- A field that may be absent or null. -/
inductive Optional (P : Value → Prop) : Option Value → Prop
  | absent : Optional P none
  | null : Optional P (some .null)
  | present {v : Value} (h : P v) : Optional P (some v)

/-- A mapping. -/
inductive IsMapping : Value → Prop
  | intro (entries : Object) : IsMapping (.obj entries)

/-- A text that names a kind, in any case. -/
inductive IsKind : Value → Prop
  | intro {text : String} (h : Text.lowercase text ∈ ["condition", "action", "job", "generic"]) :
    IsKind (.str text)

/-- A job of a document.  Its kind is one even where it does not count. -/
inductive IsJob : Value → Prop
  | intro {entries : Object} {name : String}
    (hname : Keyed.find? "name" entries = some (.str name))
    (hargs : Optional IsMapping (either "args" "arguments" entries))
    (hkind : Optional IsKind (either "kind" "job_type" entries)) : IsJob (.obj entries)

/-- A list of jobs. -/
inductive IsJobs : Value → Prop
  | intro {items : List Value} (h : ∀ item ∈ items, IsJob item) : IsJobs (.arr items)

/-- A document that is a rule. -/
inductive IsRule : Value → Prop
  | flat {items : List Value} (h : ∀ item ∈ items, IsJob item) : IsRule (.arr items)
  | grouped {entries : Object}
    (hkey : "conditions" ∈ Keyed.keys entries ∨ "actions" ∈ Keyed.keys entries)
    (hconditions : Optional IsJobs (Keyed.find? "conditions" entries))
    (hactions : Optional IsJobs (Keyed.find? "actions" entries)) : IsRule (.obj entries)

/-! ## Meaning -/

/-- The arguments of a field. -/
inductive ArgsOf : Option Value → Object → Prop
  | absent : ArgsOf none []
  | null : ArgsOf (some .null) []
  | present (args : Object) : ArgsOf (some (.obj args)) args

/-- The kind of a field. -/
inductive KindOf : Option Value → JobKind → Prop
  | absent : KindOf none .job
  | null : KindOf (some .null) .job
  | condition {text : String} (h : Text.lowercase text = "condition") :
    KindOf (some (.str text)) .condition
  | action {text : String} (h : Text.lowercase text = "action") : KindOf (some (.str text)) .action
  | job {text : String} (h : Text.lowercase text = "job") : KindOf (some (.str text)) .job
  | generic {text : String} (h : Text.lowercase text = "generic") : KindOf (some (.str text)) .job

/-- The job of an item, under the kind that its list implies. -/
inductive JobOf (implied : Option JobKind) : Value → Job → Prop
  | intro {entries : Object} {name : String} {args : Object} {kind : JobKind}
    (hname : Keyed.find? "name" entries = some (.str name))
    (hargs : ArgsOf (either "args" "arguments" entries) args)
    (hkind : KindOf (either "kind" "job_type" entries) kind) :
    JobOf implied (.obj entries) ⟨name, implied.getD kind, args⟩

/-- The jobs of items: one for each of them, in order. -/
inductive ItemsOf (implied : Option JobKind) : List Value → List Job → Prop
  | nil : ItemsOf implied [] []
  | cons {item : Value} {job : Job} {items : List Value} {jobs : List Job}
    (hjob : JobOf implied item job) (hjobs : ItemsOf implied items jobs) :
    ItemsOf implied (item :: items) (job :: jobs)

/-- The jobs of a field that holds a list. -/
inductive JobsOf (implied : Option JobKind) : Option Value → List Job → Prop
  | absent : JobsOf implied none []
  | null : JobsOf implied (some .null) []
  | present {items : List Value} {jobs : List Job} (h : ItemsOf implied items jobs) :
    JobsOf implied (some (.arr items)) jobs

/-- The rule of a document. -/
inductive RuleOf : Value → Rule → Prop
  | flat {items : List Value} {jobs : List Job} (h : ItemsOf none items jobs) :
    RuleOf (.arr items) ⟨jobs, .flat⟩
  | grouped {entries : Object} {conditions actions : List Job}
    (hkey : "conditions" ∈ Keyed.keys entries ∨ "actions" ∈ Keyed.keys entries)
    (hconditions : JobsOf (some .condition) (Keyed.find? "conditions" entries) conditions)
    (hactions : JobsOf (some .action) (Keyed.find? "actions" entries) actions) :
    RuleOf (.obj entries) ⟨conditions ++ actions, .grouped⟩

/-! ## Fields -/

section

variable {entries : Object} {first second : String}

theorem takeEither_fst (h : (Keyed.keys entries).Nodup) :
    (takeEither first second entries).1 = either first second entries := by
  rw [takeEither, either]
  cases hf : Keyed.find? first entries with
  | some v => simp [Keyed.take, hf]
  | none =>
    simp only [Keyed.take, hf, Option.none_or]
    rw [Keyed.find?_remove h]
    split
    · next hs => rw [hs, hf]
    · rfl

theorem find?_takeEither {key : String} (h : (Keyed.keys entries).Nodup) (hfirst : key ≠ first)
    (hsecond : key ≠ second) :
    Keyed.find? key (takeEither first second entries).2 = Keyed.find? key entries := by
  rw [takeEither]
  cases hf : Keyed.find? first entries with
  | some v => simp [Keyed.take, hf, Keyed.find?_remove h, hfirst]
  | none =>
    simp [Keyed.take, hf, Keyed.find?_remove h, Keyed.find?_remove (Keyed.nodup_keys_remove h),
      hfirst, hsecond]

theorem nodup_keys_takeEither (h : (Keyed.keys entries).Nodup) :
    (Keyed.keys (takeEither first second entries).2).Nodup := by
  rw [takeEither]
  cases hf : Keyed.find? first entries with
  | some v => simpa [Keyed.take, hf] using Keyed.nodup_keys_remove h
  | none => simpa [Keyed.take, hf] using Keyed.nodup_keys_remove (Keyed.nodup_keys_remove h)

/-- Taking the fields of a job out one after the other finds each of them where
it was. -/
theorem readJob_obj (h : (Keyed.keys entries).Nodup) (implied : Option JobKind) (index : Nat) :
    readJob implied index (.obj entries) = (do
      let name ← readName index (Keyed.find? "name" entries)
      let args ← readArgs name (either "args" "arguments" entries)
      let kind ← readKind name (either "kind" "job_type" entries)
      .ok ⟨name, implied.getD kind, args⟩) := by
  have hname : (Keyed.keys (Keyed.remove "name" entries)).Nodup := Keyed.nodup_keys_remove h
  simp only [readJob, Keyed.take, takeEither_fst hname,
    takeEither_fst (nodup_keys_takeEither hname)]
  simp only [either, find?_takeEither hname, Keyed.find?_remove h, ne_eq, String.reduceEq,
    not_false_eq_true, if_false]

/-- Taking the two lists out finds each of them where it was. -/
theorem readGrouped_eq (h : (Keyed.keys entries).Nodup) :
    readGrouped entries = (do
      if !Keyed.has "conditions" entries && !Keyed.has "actions" entries then .error .noLists
      let conditions ← readList "conditions" (Keyed.find? "conditions" entries)
      let actions ← readList "actions" (Keyed.find? "actions" entries)
      let conditions ← readJobs (some .condition) 0 conditions
      let actions ← readJobs (some .action) 0 actions
      .ok ⟨conditions ++ actions, .grouped⟩) := by
  have hactions :
      Keyed.find? "actions" (Keyed.remove "conditions" entries) = Keyed.find? "actions" entries := by
    rw [Keyed.find?_remove h, if_neg (by decide)]
  simp only [readGrouped, Keyed.take, hactions]

end

/-! ## Jobs -/

theorem bind_eq_ok_iff {ε α β : Type} {x : Except ε α} {f : α → Except ε β} {b : β} :
    x >>= f = .ok b ↔ ∃ a, x = .ok a ∧ f a = .ok b := by
  cases x with
  | error e => simp [bind, Except.bind]
  | ok a => simp [bind, Except.bind]

theorem readName_eq_ok_iff {index : Nat} {field : Option Value} {name : String} :
    readName index field = .ok name ↔ field = some (.str name) := by
  rw [readName.eq_def]
  split
  · simp
  · next hother => simpa using fun h => hother name (by rw [h])
  · simp

theorem readArgs_eq_ok_iff {name : String} {field : Option Value} {args : Object} :
    readArgs name field = .ok args ↔ ArgsOf field args := by
  constructor
  · intro h
    rw [readArgs.eq_def] at h
    split at h
    · cases h
      exact .absent
    · cases h
      exact .null
    · cases h
      exact .present args
    · cases h
  · intro h
    cases h with
    | absent => rfl
    | null => rfl
    | present => rfl

theorem ofText_eq_ok_iff {text : String} {kind : JobKind} :
    JobKind.ofText text = .ok kind ↔ KindOf (some (.str text)) kind := by
  constructor
  · intro h
    simp only [JobKind.ofText] at h
    split at h
    · next hc =>
      cases h
      exact .condition hc
    · split at h
      · next ha =>
        cases h
        exact .action ha
      · split at h
        · next hj =>
          cases h
          exact hj.elim .job .generic
        · cases h
  · intro h
    cases h with
    | condition h | action h | job h | generic h => simp [JobKind.ofText, h]

theorem readKind_eq_ok_iff {name : String} {field : Option Value} {kind : JobKind} :
    readKind name field = .ok kind ↔ KindOf field kind := by
  constructor
  · intro h
    rw [readKind.eq_def] at h
    split at h
    · cases h
      exact .absent
    · cases h
      exact .null
    · exact ofText_eq_ok_iff.1 h
    · cases h
  · intro h
    cases h with
    | absent => rfl
    | null => rfl
    | condition h => exact ofText_eq_ok_iff.2 (.condition h)
    | action h => exact ofText_eq_ok_iff.2 (.action h)
    | job h => exact ofText_eq_ok_iff.2 (.job h)
    | generic h => exact ofText_eq_ok_iff.2 (.generic h)

/-- What is read from an item that is a job is that job, and no other item is
read. -/
theorem readJob_eq_ok_iff {v : Value} (h : v.Distinct) {implied : Option JobKind} {index : Nat}
    {job : Job} : readJob implied index v = .ok job ↔ JobOf implied v job := by
  cases v with
  | obj entries =>
    rw [readJob_obj ((Value.distinct_obj_iff entries).1 h).1]
    simp only [bind_eq_ok_iff, readName_eq_ok_iff, readArgs_eq_ok_iff, readKind_eq_ok_iff]
    constructor
    · intro hread
      obtain ⟨name, hname, args, hargs, kind, hkind, hjob⟩ := hread
      cases hjob
      exact .intro hname hargs hkind
    · intro hjob
      obtain ⟨hname, hargs, hkind⟩ := hjob
      exact ⟨_, hname, _, hargs, _, hkind, rfl⟩
  | null | bool | num | str | arr => exact iff_of_false nofun nofun

theorem readJobs_eq_ok_iff {items : List Value} (h : ∀ item ∈ items, item.Distinct)
    {implied : Option JobKind} {index : Nat} {jobs : List Job} :
    readJobs implied index items = .ok jobs ↔ ItemsOf implied items jobs := by
  induction items generalizing index jobs with
  | nil =>
    constructor
    · intro hread
      cases hread
      exact .nil
    · intro hnone
      cases hnone
      rfl
  | cons item items ih =>
    obtain ⟨hitem, hitems⟩ := List.forall_mem_cons.1 h
    rw [readJobs]
    simp only [bind_eq_ok_iff, readJob_eq_ok_iff hitem, ih hitems]
    constructor
    · intro hread
      obtain ⟨job, hjob, rest, hrest, hjobs⟩ := hread
      cases hjobs
      exact .cons hjob hrest
    · intro hall
      cases hall with
      | cons hjob hrest => exact ⟨_, hjob, _, hrest, rfl⟩

/-! ## Documents -/

theorem readList_eq_ok_iff {key : String} {field : Option Value} {items : List Value} :
    readList key field = .ok items ↔
      (field = none ∨ field = some .null) ∧ items = [] ∨ field = some (.arr items) := by
  rw [readList.eq_def]
  split
  · simp [eq_comm]
  · simp [eq_comm]
  · simp [eq_comm]
  · next hnull harr => simp_all

/-- The list of a field is read, and then its jobs. -/
theorem readList_readJobs_iff {key : String} {field : Option Value}
    (h : ∀ v, field = some v → v.Distinct) {implied : Option JobKind} {jobs : List Job} :
    (∃ items, readList key field = .ok items ∧ readJobs implied 0 items = .ok jobs) ↔
      JobsOf implied field jobs := by
  simp only [readList_eq_ok_iff]
  constructor
  · intro hread
    obtain ⟨items, ⟨rfl | rfl, rfl⟩ | rfl, hjobs⟩ := hread
    · cases hjobs
      exact .absent
    · cases hjobs
      exact .null
    · exact .present ((readJobs_eq_ok_iff ((Value.distinct_arr_iff items).1 (h _ rfl))).1 hjobs)
  · intro hjobs
    cases hjobs with
    | absent => exact ⟨[], .inl ⟨.inl rfl, rfl⟩, rfl⟩
    | null => exact ⟨[], .inl ⟨.inr rfl, rfl⟩, rfl⟩
    | @present items _ hitems =>
      have hdistinct := (Value.distinct_arr_iff items).1 (h _ rfl)
      exact ⟨items, .inr rfl, (readJobs_eq_ok_iff hdistinct).2 hitems⟩

/-- Whether the reader misses both lists. -/
theorem noLists_iff (entries : Object) :
    (!Keyed.has "conditions" entries && !Keyed.has "actions" entries) = true ↔
      ¬ ("conditions" ∈ Keyed.keys entries ∨ "actions" ∈ Keyed.keys entries) := by
  simp [← Keyed.find?_isSome_iff, Keyed.has]

theorem readGrouped_eq_ok_iff {entries : Object} (h : (Value.obj entries).Distinct) {rule : Rule} :
    readGrouped entries = .ok rule ↔ RuleOf (.obj entries) rule := by
  rw [readGrouped_eq ((Value.distinct_obj_iff entries).1 h).1]
  by_cases hkey : "conditions" ∈ Keyed.keys entries ∨ "actions" ∈ Keyed.keys entries
  · rw [if_neg fun hmissed => (noLists_iff entries).1 hmissed hkey]
    simp only [bind_eq_ok_iff]
    constructor
    · intro hread
      -- both lists are looked at before the jobs of either are read
      obtain ⟨conditionItems, hc, actionItems, ha, conditions, hcs, actions, has, hrule⟩ := hread
      cases hrule
      exact .grouped hkey ((readList_readJobs_iff fun _ => h.of_find?).1 ⟨_, hc, hcs⟩)
        ((readList_readJobs_iff fun _ => h.of_find?).1 ⟨_, ha, has⟩)
    · intro hrule
      cases hrule with
      | grouped _ hconditions hactions =>
        obtain ⟨conditionItems, hc, hcs⟩ :=
          (readList_readJobs_iff fun _ => h.of_find?).2 hconditions
        obtain ⟨actionItems, ha, has⟩ := (readList_readJobs_iff fun _ => h.of_find?).2 hactions
        exact ⟨_, hc, _, ha, _, hcs, _, has, rfl⟩
  · rw [if_pos ((noLists_iff entries).2 hkey)]
    refine iff_of_false nofun fun hrule => ?_
    cases hrule with
    | grouped hlists => exact hkey hlists

/-- The documents that the reader accepts are rules, and it reads the rule that
they are. -/
theorem ofValue_eq_ok_iff {v : Value} (h : v.Distinct) {rule : Rule} :
    ofValue v = .ok rule ↔ RuleOf v rule := by
  cases v with
  | arr items =>
    have hitems := (Value.distinct_arr_iff items).1 h
    rw [ofValue]
    constructor
    · intro hread
      cases hjobs : readJobs none 0 items with
      | error fault => simp [hjobs, Except.map] at hread
      | ok jobs =>
        rw [hjobs] at hread
        cases hread
        exact .flat ((readJobs_eq_ok_iff hitems).1 hjobs)
    · intro hrule
      cases hrule with
      | flat hjobs =>
        rw [(readJobs_eq_ok_iff hitems).2 hjobs]
        rfl
  | obj entries => exact readGrouped_eq_ok_iff h
  | null | bool | num | str => exact iff_of_false nofun nofun

/-! ## Acceptance -/

theorem optional_isMapping_iff {field : Option Value} :
    Optional IsMapping field ↔ ∃ args, ArgsOf field args := by
  constructor
  · intro hfield
    cases hfield with
    | absent => exact ⟨[], .absent⟩
    | null => exact ⟨[], .null⟩
    | present h =>
      obtain ⟨args⟩ := h
      exact ⟨args, .present args⟩
  · intro hfield
    obtain ⟨args, hargs⟩ := hfield
    cases hargs with
    | absent => exact .absent
    | null => exact .null
    | present args => exact .present (.intro args)

theorem optional_isKind_iff {field : Option Value} :
    Optional IsKind field ↔ ∃ kind, KindOf field kind := by
  constructor
  · intro hfield
    cases hfield with
    | absent => exact ⟨.job, .absent⟩
    | null => exact ⟨.job, .null⟩
    | present h =>
      obtain ⟨h⟩ := h
      simp only [List.mem_cons, List.not_mem_nil, or_false] at h
      obtain h | h | h | h := h
      · exact ⟨_, .condition h⟩
      · exact ⟨_, .action h⟩
      · exact ⟨_, .job h⟩
      · exact ⟨_, .generic h⟩
  · intro hfield
    obtain ⟨kind, h⟩ := hfield
    cases h with
    | absent => exact .absent
    | null => exact .null
    | condition h | action h | job h | generic h => exact .present (.intro (by simp [h]))

/-- Which items are jobs does not depend on the kind that the list implies. -/
theorem isJob_iff (implied : Option JobKind) {v : Value} :
    IsJob v ↔ ∃ job, JobOf implied v job := by
  constructor
  · intro hjob
    obtain ⟨hname, hargs, hkind⟩ := hjob
    obtain ⟨args, hargs⟩ := optional_isMapping_iff.1 hargs
    obtain ⟨kind, hkind⟩ := optional_isKind_iff.1 hkind
    exact ⟨_, .intro hname hargs hkind⟩
  · intro hread
    obtain ⟨job, hname, hargs, hkind⟩ := hread
    exact .intro hname (optional_isMapping_iff.2 ⟨_, hargs⟩) (optional_isKind_iff.2 ⟨_, hkind⟩)

theorem forall_isJob_iff (implied : Option JobKind) {items : List Value} :
    (∀ item ∈ items, IsJob item) ↔ ∃ jobs, ItemsOf implied items jobs := by
  induction items with
  | nil => exact iff_of_true (by simp) ⟨[], .nil⟩
  | cons item items ih =>
    rw [List.forall_mem_cons, ih, isJob_iff implied]
    constructor
    · intro hall
      obtain ⟨⟨job, hjob⟩, jobs, hjobs⟩ := hall
      exact ⟨job :: jobs, .cons hjob hjobs⟩
    · intro hall
      obtain ⟨_, hall⟩ := hall
      cases hall with
      | cons hjob hjobs => exact ⟨⟨_, hjob⟩, _, hjobs⟩

theorem optional_isJobs_iff (implied : Option JobKind) {field : Option Value} :
    Optional IsJobs field ↔ ∃ jobs, JobsOf implied field jobs := by
  constructor
  · intro hfield
    cases hfield with
    | absent => exact ⟨[], .absent⟩
    | null => exact ⟨[], .null⟩
    | present h =>
      obtain ⟨hitems⟩ := h
      obtain ⟨jobs, hjobs⟩ := (forall_isJob_iff implied).1 hitems
      exact ⟨jobs, .present hjobs⟩
  · intro hfield
    obtain ⟨jobs, hjobs⟩ := hfield
    cases hjobs with
    | absent => exact .absent
    | null => exact .null
    | present h => exact .present (.intro ((forall_isJob_iff implied).2 ⟨jobs, h⟩))

theorem isRule_iff {v : Value} : IsRule v ↔ ∃ rule, RuleOf v rule := by
  constructor
  · intro hrule
    cases hrule with
    | flat h =>
      obtain ⟨jobs, hjobs⟩ := (forall_isJob_iff none).1 h
      exact ⟨_, .flat hjobs⟩
    | grouped hkey hconditions hactions =>
      obtain ⟨conditions, hconditions⟩ := (optional_isJobs_iff _).1 hconditions
      obtain ⟨actions, hactions⟩ := (optional_isJobs_iff _).1 hactions
      exact ⟨_, .grouped hkey hconditions hactions⟩
  · intro hread
    obtain ⟨rule, hrule⟩ := hread
    cases hrule with
    | flat hjobs => exact .flat ((forall_isJob_iff none).2 ⟨_, hjobs⟩)
    | grouped hkey hconditions hactions =>
      exact .grouped hkey ((optional_isJobs_iff _).2 ⟨_, hconditions⟩)
        ((optional_isJobs_iff _).2 ⟨_, hactions⟩)

theorem ofDocument_eq_ok_iff {v : Value} {rule : Rule} :
    ofDocument v = .ok rule ↔ ofValue v = .ok rule := by
  rw [ofDocument]
  cases ofValue v with
  | error fault => exact iff_of_false nofun nofun
  | ok other =>
    constructor
    · intro h
      cases h
      rfl
    · intro h
      cases h
      rfl

/-- **The reader accepts exactly its grammar**: a document that is a rule is read
as that rule, and any other document is rejected for a fault in it. -/
theorem read_value_grammar (diagnose : Diagnosis) (v : Value) (h : v.Distinct) :
    ((∃ rule, (read diagnose (.value v)).value = .ok rule) ↔ IsRule v) ∧
      (∀ rule, (read diagnose (.value v)).value = .ok rule ↔ RuleOf v rule) ∧
      (¬ IsRule v → ∃ fault, (read diagnose (.value v)).value = .error (.invalidInput fault)) := by
  have hread (rule : Rule) : (read diagnose (.value v)).value = .ok rule ↔ RuleOf v rule :=
    ofDocument_eq_ok_iff.trans (ofValue_eq_ok_iff h)
  refine ⟨?_, hread, ?_⟩
  · simp only [hread, isRule_iff]
  · intro hreject
    cases hv : ofValue v with
    | ok rule => exact absurd (isRule_iff.2 ⟨rule, (ofValue_eq_ok_iff h).1 hv⟩) hreject
    | error fault =>
      refine ⟨fault, ?_⟩
      simp only [read, Noted.plain, ofDocument, hv]
      rfl

/-- A grouped document with its lists in the other order, a null list, a foreign
key, and a job whose fields are taken from the front and from the middle. -/
def sampleDocument : Value :=
  .obj [("actions", .arr [.obj [("name", .str "notify"), ("arguments", .obj [("b", .null),
      ("a", .bool true)]), ("note", .null), ("kind", .str "Generic")]]),
    ("note", .str "x"), ("conditions", .null)]

theorem read_value_grammar_sample :
    sampleDocument.Distinct ∧
      (read .terse (.value sampleDocument)).value =
        .ok ⟨[⟨"notify", .action, [("b", .null), ("a", .bool true)]⟩], .grouped⟩ ∧
      IsRule sampleDocument ∧
      RuleOf sampleDocument
        ⟨[⟨"notify", .action, [("b", .null), ("a", .bool true)]⟩], .grouped⟩ := by
  have hdistinct : sampleDocument.Distinct := by
    simp [sampleDocument, Value.Distinct, Value.DistinctEntries, Value.DistinctItems]
  have hread : (read .terse (.value sampleDocument)).value =
      .ok ⟨[⟨"notify", .action, [("b", .null), ("a", .bool true)]⟩], .grouped⟩ := by rfl
  obtain ⟨haccepts, hmeans, -⟩ := read_value_grammar .terse sampleDocument hdistinct
  exact ⟨hdistinct, hread, haccepts.1 ⟨_, hread⟩, (hmeans _).1 hread⟩

end Rule

end RuleEngine
