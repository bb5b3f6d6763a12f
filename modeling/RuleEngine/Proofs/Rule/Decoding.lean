import RuleEngine.Proofs.Rule.WriteBack

/-!
# RuleEngine.Proofs.Rule.Decoding

Rule documents can be read in two ways: as documents, or decoded as native jobs.

The decoder of a mapping goes through its entries once and collects the fields, while the
reader looks for each field.  So the walk of the decoder is taken apart into one walk for
each field (`foldlM_jobField`, `foldlM_groupedField`), and a walk for one field is a
look-up as long as no key is there twice (`foldlM_single`, `foldlM_oneOf`).  What is decoded
and what is read are then compared field by field:

* `Given.argsOf`, `Given.kindOf` — what is decoded from a field is what is read from it;
* `ArgsOf.given`, `KindOf.given` — what is read from a field is decoded from it, where the
  field is spelled as the decoder wants it (`Plain`).
-/

namespace RuleEngine

open Rule (bind_eq_ok_iff)

namespace Decode

/-! ## Walks -/

section

variable {α β : Type} {key first second : String} {decode : Decoder α} {wrap : α → β}

theorem foldlM_cons_eq_ok_iff {ε σ τ : Type} {f : σ → τ → Except ε σ} {s out : σ} {x : τ}
    {xs : List τ} :
    (x :: xs).foldlM f s = .ok out ↔ ∃ mid, f s x = .ok mid ∧ xs.foldlM f mid = .ok out := by
  rw [List.foldlM_cons, bind_eq_ok_iff]

theorem exists_map_eq_ok_iff {ε σ τ : Type} {f : σ → τ} {x : Except ε σ} {P : τ → Prop} :
    (∃ y, x.map f = .ok y ∧ P y) ↔ ∃ a, x = .ok a ∧ P (f a) := by
  cases x <;> simp [Except.map]

/-- One entry, for a field that is given under one key: the last value counts. -/
def single (key : String) (decode : Decoder α) (wrap : α → β) (taken : β)
    (e : String × Value) : Except Wrong β :=
  if e.1 = key then (decode e.2).map wrap else .ok taken

/-- One entry, for a field that is given under one of two keys, and once. -/
def oneOf (first second : String) (decode : Decoder α) (taken : Option α)
    (e : String × Value) : Except Wrong (Option α) :=
  if e.1 = first ∨ e.1 = second then
    if taken.isSome then .error (.duplicate first) else (decode e.2).map some
  else .ok taken

/-- What is decoded of the fields of two keys, of which at most one is there. -/
inductive Given (decode : Decoder α) : Option Value → Option Value → Option α → Prop
  | absent : Given decode none none none
  | first {v : Value} {a : α} (h : decode v = .ok a) : Given decode (some v) none (some a)
  | second {v : Value} {a : α} (h : decode v = .ok a) : Given decode none (some v) (some a)

/-- The walk for one key finds what is there. -/
theorem foldlM_single {es : Object} (h : (Keyed.keys es).Nodup) {taken out : β} :
    es.foldlM (single key decode wrap) taken = .ok out ↔
      (Keyed.find? key es = none ∧ out = taken) ∨
        ∃ v a, Keyed.find? key es = some v ∧ decode v = .ok a ∧ out = wrap a := by
  induction es generalizing taken with
  | nil => simp [Keyed.find?, pure, Except.pure, eq_comm]
  | cons e rest ih =>
    obtain ⟨k, v⟩ := e
    obtain ⟨hk, hrest⟩ := List.nodup_cons.1 h
    rw [foldlM_cons_eq_ok_iff]
    by_cases he : k = key
    · subst he
      have hnone : Keyed.find? k rest = none := by
        rw [← Option.not_isSome_iff_eq_none, Keyed.find?_isSome_iff]
        exact hk
      simp only [single, Keyed.find?, ih hrest, hnone, if_true, exists_map_eq_ok_iff]
      simp
    · simp [single, Keyed.find?, he, ih hrest]

theorem given_first_iff {v : Value} {other : Option Value} {out : Option α} :
    Given decode (some v) other out ↔ ∃ a, decode v = .ok a ∧ other = none ∧ out = some a := by
  constructor
  · intro h
    cases h with
    | first h => exact ⟨_, h, rfl, rfl⟩
  · intro h
    obtain ⟨a, h, rfl, rfl⟩ := h
    exact .first h

theorem given_second_iff {v : Value} {other : Option Value} {out : Option α} :
    Given decode other (some v) out ↔ ∃ a, decode v = .ok a ∧ other = none ∧ out = some a := by
  constructor
  · intro h
    cases h with
    | second h => exact ⟨_, h, rfl, rfl⟩
  · intro h
    obtain ⟨a, h, rfl, rfl⟩ := h
    exact .second h

/-- The walk for two keys finds what is there, unless something was found before. -/
theorem foldlM_oneOf_from {es : Object} (h : (Keyed.keys es).Nodup) (hne : first ≠ second)
    {taken out : Option α} :
    es.foldlM (oneOf first second decode) taken = .ok out ↔
      (Keyed.find? first es = none ∧ Keyed.find? second es = none ∧ out = taken) ∨
        taken = none ∧ Given decode (Keyed.find? first es) (Keyed.find? second es) out := by
  induction es generalizing taken with
  | nil =>
    simp only [Keyed.find?, List.foldlM_nil, pure, Except.pure, Except.ok.injEq, true_and]
    constructor
    · exact fun h => .inl h.symm
    · intro h
      obtain rfl | ⟨rfl, h⟩ := h
      · rfl
      · cases h
        rfl
  | cons e rest ih =>
    obtain ⟨k, v⟩ := e
    obtain ⟨hk, hrest⟩ := List.nodup_cons.1 h
    have hnone : Keyed.find? k rest = none := by
      rw [← Option.not_isSome_iff_eq_none, Keyed.find?_isSome_iff]
      exact hk
    rw [foldlM_cons_eq_ok_iff]
    by_cases hfirst : k = first
    · subst hfirst
      cases taken with
      | some a => simp [oneOf, Keyed.find?]
      | none =>
        simp only [oneOf, Keyed.find?, ih hrest, hnone, given_first_iff, if_neg hne, if_true,
          true_or, Option.isSome_none, Bool.false_eq_true, if_false, exists_map_eq_ok_iff]
        simp
    · by_cases hsecond : k = second
      · subst hsecond
        cases taken with
        | some a => simp [oneOf, Keyed.find?]
        | none =>
          simp only [oneOf, Keyed.find?, ih hrest, hnone, given_second_iff, if_neg hfirst, if_true,
            or_true, Option.isSome_none, Bool.false_eq_true, if_false, exists_map_eq_ok_iff]
          simp
      · simp [oneOf, Keyed.find?, hfirst, hsecond, ih hrest]

theorem foldlM_oneOf {es : Object} (h : (Keyed.keys es).Nodup) (hne : first ≠ second)
    {out : Option α} :
    es.foldlM (oneOf first second decode) none = .ok out ↔
      Given decode (Keyed.find? first es) (Keyed.find? second es) out := by
  rw [foldlM_oneOf_from h hne]
  constructor
  · intro hwalk
    obtain ⟨hfirst, hsecond, rfl⟩ | ⟨-, hgiven⟩ := hwalk
    · rw [hfirst, hsecond]
      exact .absent
    · exact hgiven
  · exact fun hgiven => .inr ⟨rfl, hgiven⟩

end

/-! ## Jobs -/

/-- An entry is decoded for each of the three fields of a job apart. -/
theorem jobField_eq_ok_iff {taken out : JobFields} {e : String × Value} :
    jobField taken e = .ok out ↔
      single "name" text some taken.name e = .ok out.name ∧
        oneOf "kind" "job_type" jobKind taken.kind e = .ok out.kind ∧
        oneOf "args" "arguments" object taken.args e = .ok out.args := by
  obtain ⟨key, v⟩ := e
  obtain ⟨name, kind, args⟩ := out
  by_cases hname : key = "name"
  · subst hname
    cases h : text v <;> simp [jobField, single, oneOf, h, Except.map]
  · by_cases hkind : key = "kind" ∨ key = "job_type"
    · have hargs : ¬ (key = "args" ∨ key = "arguments") := by
        obtain rfl | rfl := hkind <;> simp
      simp only [jobField, single, oneOf, if_neg hname, if_pos hkind, if_neg hargs]
      by_cases htaken : taken.kind.isSome = true
      · simp [htaken]
      · cases jobKind v <;> simp [htaken, Except.map]
    · by_cases hargs : key = "args" ∨ key = "arguments"
      · simp only [jobField, single, oneOf, if_neg hname, if_neg hkind, if_pos hargs]
        by_cases htaken : taken.args.isSome = true
        · simp [htaken]
        · cases object v <;> simp [htaken, Except.map]
      · simp only [jobField, single, oneOf, if_neg hname, if_neg hkind, if_neg hargs]
        obtain ⟨takenName, takenKind, takenArgs⟩ := taken
        simp

/-- The walk for a job is one walk for each of its fields. -/
theorem foldlM_jobField {es : Object} {taken out : JobFields} :
    es.foldlM jobField taken = .ok out ↔
      es.foldlM (single "name" text some) taken.name = .ok out.name ∧
        es.foldlM (oneOf "kind" "job_type" jobKind) taken.kind = .ok out.kind ∧
        es.foldlM (oneOf "args" "arguments" object) taken.args = .ok out.args := by
  induction es generalizing taken with
  | nil =>
    obtain ⟨name, kind, args⟩ := taken
    obtain ⟨name', kind', args'⟩ := out
    simp [pure, Except.pure]
  | cons e rest ih =>
    simp only [foldlM_cons_eq_ok_iff, jobField_eq_ok_iff, ih]
    constructor
    · intro h
      obtain ⟨mid, ⟨hname, hkind, hargs⟩, hname', hkind', hargs'⟩ := h
      exact ⟨⟨_, hname, hname'⟩, ⟨_, hkind, hkind'⟩, ⟨_, hargs, hargs'⟩⟩
    · intro h
      obtain ⟨⟨name, hname, hname'⟩, ⟨kind, hkind, hkind'⟩, ⟨args, hargs, hargs'⟩⟩ := h
      exact ⟨⟨name, kind, args⟩, ⟨hname, hkind, hargs⟩, hname', hkind', hargs'⟩

theorem text_eq_ok_iff {v : Value} {s : String} : text v = .ok s ↔ v = .str s := by
  cases v <;> simp [text, reject]

/-- Which mappings are decoded as a job, and as which. -/
theorem job_obj_eq_ok_iff {es : Object} (h : (Keyed.keys es).Nodup) {out : Job} :
    job (.obj es) = .ok out ↔
      Keyed.find? "name" es = some (.str out.name) ∧
        (∃ kind, Given jobKind (Keyed.find? "kind" es) (Keyed.find? "job_type" es) kind ∧
          out.kind = kind.getD .job) ∧
        ∃ args, Given object (Keyed.find? "args" es) (Keyed.find? "arguments" es) args ∧
          out.args = args.getD [] := by
  simp only [job, bind_eq_ok_iff, foldlM_jobField, foldlM_single h, foldlM_oneOf h, ne_eq,
    String.reduceEq, not_false_eq_true, text_eq_ok_iff]
  constructor
  · intro hjob
    obtain ⟨⟨name, kind, args⟩, ⟨hname, hkind, hargs⟩, hout⟩ := hjob
    simp only at hname hkind hargs hout
    obtain ⟨-, rfl⟩ | ⟨v, s, hv, rfl, rfl⟩ := hname
    · cases hout
    · cases hout
      exact ⟨hv, ⟨kind, hkind, rfl⟩, ⟨args, hargs, rfl⟩⟩
  · intro hfields
    obtain ⟨name, outKind, outArgs⟩ := out
    obtain ⟨hname, ⟨kind, hkind, hkindOut⟩, ⟨args, hargs, hargsOut⟩⟩ := hfields
    simp only at hname hkindOut hargsOut
    subst hkindOut hargsOut
    exact ⟨⟨some name, kind, args⟩, ⟨.inr ⟨_, _, hname, rfl, rfl⟩, hkind, hargs⟩, rfl⟩

/-! ## Grouped rules -/

/-- An entry is decoded for each of the two lists apart. -/
theorem groupedField_eq_ok_iff {taken out : GroupedRule} {e : String × Value} :
    groupedField taken e = .ok out ↔
      single "conditions" (list job) id taken.conditions e = .ok out.conditions ∧
        single "actions" (list job) id taken.actions e = .ok out.actions := by
  obtain ⟨key, v⟩ := e
  obtain ⟨conditions, actions⟩ := out
  by_cases hconditions : key = "conditions"
  · subst hconditions
    cases h : list job v <;> simp [groupedField, single, h, Except.map]
  · by_cases hactions : key = "actions"
    · subst hactions
      cases h : list job v <;> simp [groupedField, single, h, Except.map]
    · obtain ⟨takenConditions, takenActions⟩ := taken
      simp [groupedField, single, hconditions, hactions]

/-- The walk for a grouped rule is one walk for each of its lists. -/
theorem foldlM_groupedField {es : Object} {taken out : GroupedRule} :
    es.foldlM groupedField taken = .ok out ↔
      es.foldlM (single "conditions" (list job) id) taken.conditions = .ok out.conditions ∧
        es.foldlM (single "actions" (list job) id) taken.actions = .ok out.actions := by
  induction es generalizing taken with
  | nil =>
    obtain ⟨conditions, actions⟩ := taken
    obtain ⟨conditions', actions'⟩ := out
    simp [pure, Except.pure]
  | cons e rest ih =>
    simp only [foldlM_cons_eq_ok_iff, groupedField_eq_ok_iff, ih]
    constructor
    · intro h
      obtain ⟨mid, ⟨hconditions, hactions⟩, hconditions', hactions'⟩ := h
      exact ⟨⟨_, hconditions, hconditions'⟩, ⟨_, hactions, hactions'⟩⟩
    · intro h
      obtain ⟨⟨conditions, hconditions, hconditions'⟩, ⟨actions, hactions, hactions'⟩⟩ := h
      exact ⟨⟨conditions, actions⟩, ⟨hconditions, hactions⟩, hconditions', hactions'⟩

/-- Which mappings are decoded as a grouped rule, and as which: a list that is not there
has no jobs. -/
theorem groupedRule_obj_eq_ok_iff {es : Object} (h : (Keyed.keys es).Nodup) {out : GroupedRule} :
    groupedRule (.obj es) = .ok out ↔
      ((Keyed.find? "conditions" es = none ∧ out.conditions = []) ∨
        ∃ v, Keyed.find? "conditions" es = some v ∧ list job v = .ok out.conditions) ∧
      ((Keyed.find? "actions" es = none ∧ out.actions = []) ∨
        ∃ v, Keyed.find? "actions" es = some v ∧ list job v = .ok out.actions) := by
  simp only [groupedRule, foldlM_groupedField, foldlM_single h, id_eq]
  simp

/-! ## Decoded fields and read fields -/

section

variable {α : Type} {decode : Decoder α} {first second : Option Value}

/-- Where at most one of two keys is there, its field is decoded if its value can be. -/
theorem exists_given (hone : first = none ∨ second = none)
    (h : ∀ v, first.or second = some v → ∃ a, decode v = .ok a) :
    ∃ out, Given decode first second out := by
  cases first with
  | some v =>
    obtain rfl : second = none := hone.resolve_left (by simp)
    obtain ⟨a, ha⟩ := h v (by simp)
    exact ⟨_, .first ha⟩
  | none =>
    cases second with
    | some v =>
      obtain ⟨a, ha⟩ := h v (by simp)
      exact ⟨_, .second ha⟩
    | none => exact ⟨_, .absent⟩

theorem object_eq_ok_iff {v : Value} {entries : Object} :
    object v = .ok entries ↔ v = .obj entries := by
  cases v <;> simp [object, reject]

/-- Arguments that are decoded are read as they are decoded. -/
theorem Given.argsOf {args : Option Object} (h : Given object first second args) :
    Rule.ArgsOf (first.or second) (args.getD []) := by
  cases h with
  | absent => exact .absent
  | first h =>
    rw [object_eq_ok_iff] at h
    subst h
    exact .present _
  | second h =>
    rw [object_eq_ok_iff] at h
    subst h
    exact .present _

theorem kindOf_of_jobKind {text : String} {kind : JobKind} (h : jobKind (.str text) = .ok kind) :
    Rule.KindOf (some (.str text)) kind := by
  simp only [jobKind, enumeration, variant, Keyed.find?] at h
  by_cases hcondition : "condition" = text
  · subst hcondition
    cases h
    exact .condition rfl
  · by_cases haction : "action" = text
    · subst haction
      cases h
      exact .action rfl
    · by_cases hgeneric : "generic" = text
      · subst hgeneric
        cases h
        exact .generic rfl
      · by_cases hjob : "job" = text
        · subst hjob
          cases h
          exact .job rfl
        · simp [hcondition, haction, hgeneric, hjob] at h

/-- A kind that is decoded from a text is read as it is decoded. -/
theorem Given.kindOf {kind : Option JobKind} (h : Given jobKind first second kind)
    (htext : ∀ v, first.or second = some v → ∃ text, v = .str text) :
    Rule.KindOf (first.or second) (kind.getD .job) := by
  cases h with
  | absent => exact .absent
  | @first v a h =>
    obtain ⟨text, rfl⟩ := htext v rfl
    exact kindOf_of_jobKind h
  | @second v a h =>
    obtain ⟨text, rfl⟩ := htext v rfl
    exact kindOf_of_jobKind h

/-- A kind that is read from a text in lowercase is decoded. -/
theorem jobKind_of_kindOf {text : String} {kind : JobKind} (hlower : Text.lowercase text = text)
    (h : Rule.KindOf (some (.str text)) kind) : jobKind (.str text) = .ok kind := by
  cases h with
  | condition h | action h | job h | generic h =>
    rw [hlower] at h
    subst h
    rfl

end

end Decode

namespace Rule

variable {diagnose : Diagnosis}

/-! ## Spelling -/

/-- An item that is a mapping, in which every kind is a text. -/
inductive TextKinds : Value → Prop
  | intro {entries : Object}
    (h : ∀ key ∈ ["kind", "job_type"], ∀ v, Keyed.find? key entries = some v →
      ∃ text, v = .str text) : TextKinds (.obj entries)

/-- An item that is spelled as the decoder wants it: nothing is null, the arguments and the
kind are given under one key, and kinds are in lowercase. -/
inductive Plain : Value → Prop
  | intro {entries : Object}
    (notNull : ∀ key ∈ ["args", "arguments", "kind", "job_type"],
      Keyed.find? key entries ≠ some .null)
    (oneArgs : Keyed.find? "args" entries = none ∨ Keyed.find? "arguments" entries = none)
    (oneKind : Keyed.find? "kind" entries = none ∨ Keyed.find? "job_type" entries = none)
    (lowercase : ∀ key ∈ ["kind", "job_type"], ∀ text,
      Keyed.find? key entries = some (.str text) → Text.lowercase text = text) :
    Plain (.obj entries)

/-- The items of the two lists of a mapping. -/
inductive Listed (entries : Object) : Value → Prop
  | intro {key : String} {items : List Value} {item : Value}
    (hkey : key ∈ ["conditions", "actions"])
    (hlist : Keyed.find? key entries = some (.arr items)) (hitem : item ∈ items) :
    Listed entries item

theorem either_eq_some {first second : String} {entries : Object} {v : Value}
    (h : either first second entries = some v) :
    ∃ key ∈ [first, second], Keyed.find? key entries = some v := by
  rw [either, Option.or_eq_some_iff] at h
  obtain h | ⟨-, h⟩ := h
  · exact ⟨first, by simp, h⟩
  · exact ⟨second, by simp, h⟩

theorem KindOf.text_of_ne_null {v : Value} {kind : JobKind} (h : KindOf (some v) kind)
    (hnull : v ≠ .null) : ∃ text, v = .str text := by
  cases h with
  | null => exact absurd rfl hnull
  | @condition text | @action text | @job text | @generic text => exact ⟨text, rfl⟩

/-! ## Decoded jobs and read jobs -/

/-- A job that is decoded is read as it is decoded, under the kind that the list implies. -/
theorem jobOf_of_decoded {v : Value} (hdistinct : v.Distinct) (htext : TextKinds v) {job : Job}
    (h : Decode.job v = .ok job) (implied : Option JobKind) :
    JobOf implied v (job.withKind (implied.getD job.kind)) := by
  obtain ⟨htext⟩ := htext
  have hnodup := ((Value.distinct_obj_iff _).1 hdistinct).1
  obtain ⟨hname, ⟨kind, hkind, hkindOut⟩, ⟨args, hargs, hargsOut⟩⟩ :=
    (Decode.job_obj_eq_ok_iff hnodup).1 h
  obtain ⟨name, jobKind, jobArgs⟩ := job
  simp only at hname hkindOut hargsOut
  subst hkindOut hargsOut
  refine .intro hname hargs.argsOf (hkind.kindOf ?_)
  intro v hv
  obtain ⟨key, hkey, hfound⟩ := either_eq_some hv
  exact htext key hkey v hfound

/-- A job that is read is decoded, where it is spelled as the decoder wants it. -/
theorem decoded_of_jobOf {v : Value} (hdistinct : v.Distinct) (hplain : Plain v)
    {implied : Option JobKind} {job : Job} (h : JobOf implied v job) :
    ∃ decoded, Decode.job v = .ok decoded := by
  cases h with
  | @intro entries name args kind hname hargs hkind =>
    obtain ⟨notNull, oneArgs, oneKind, lowercase⟩ := hplain
    have hnodup := ((Value.distinct_obj_iff _).1 hdistinct).1
    have hargs' : ∃ out, Decode.Given Decode.object (Keyed.find? "args" entries)
        (Keyed.find? "arguments" entries) out := by
      apply Decode.exists_given oneArgs
      intro v hv
      obtain ⟨key, hkey, hfound⟩ := either_eq_some hv
      rw [either, hv] at hargs
      cases hargs with
      | null => exact absurd hfound (notNull key (List.mem_append_left ["kind", "job_type"] hkey))
      | present args => exact ⟨args, rfl⟩
    have hkind' : ∃ out, Decode.Given Decode.jobKind (Keyed.find? "kind" entries)
        (Keyed.find? "job_type" entries) out := by
      apply Decode.exists_given oneKind
      intro v hv
      obtain ⟨key, hkey, hfound⟩ := either_eq_some hv
      rw [either, hv] at hkind
      have hnull : v ≠ .null := by
        intro heq
        subst heq
        exact notNull key (List.mem_append_right ["args", "arguments"] hkey) hfound
      obtain ⟨text, rfl⟩ := hkind.text_of_ne_null hnull
      exact ⟨kind, Decode.jobKind_of_kindOf (lowercase key hkey text hfound) hkind⟩
    obtain ⟨args', hargs'⟩ := hargs'
    obtain ⟨kind', hkind'⟩ := hkind'
    exact ⟨⟨name, kind'.getD .job, args'.getD []⟩,
      (Decode.job_obj_eq_ok_iff hnodup).2 ⟨hname, ⟨_, hkind', rfl⟩, ⟨_, hargs', rfl⟩⟩⟩

theorem itemsOf_of_decoded {items : List Value} (hdistinct : ∀ item ∈ items, item.Distinct)
    (htext : ∀ item ∈ items, TextKinds item) {jobs : List Job}
    (h : items.mapM Decode.job = .ok jobs) (implied : Option JobKind) :
    ItemsOf implied items (jobs.map fun job => job.withKind (implied.getD job.kind)) := by
  induction items generalizing jobs with
  | nil =>
    cases h
    exact .nil
  | cons item items ih =>
    obtain ⟨hitem, hitems⟩ := List.forall_mem_cons.1 hdistinct
    obtain ⟨htextItem, htextItems⟩ := List.forall_mem_cons.1 htext
    rw [List.mapM_cons, bind_eq_ok_iff] at h
    obtain ⟨job, hjob, h⟩ := h
    rw [bind_eq_ok_iff] at h
    obtain ⟨rest, hrest, h⟩ := h
    cases h
    exact .cons (jobOf_of_decoded hitem htextItem hjob implied) (ih hitems htextItems hrest)

theorem decoded_of_itemsOf {items : List Value} (hdistinct : ∀ item ∈ items, item.Distinct)
    (hplain : ∀ item ∈ items, Plain item) {implied : Option JobKind} {jobs : List Job}
    (h : ItemsOf implied items jobs) : ∃ decoded, items.mapM Decode.job = .ok decoded := by
  induction h with
  | nil => exact ⟨[], rfl⟩
  | @cons item job items jobs hjob hjobs ih =>
    obtain ⟨hitem, hitems⟩ := List.forall_mem_cons.1 hdistinct
    obtain ⟨hplainItem, hplainItems⟩ := List.forall_mem_cons.1 hplain
    obtain ⟨first, hfirst⟩ := decoded_of_jobOf hitem hplainItem hjob
    obtain ⟨rest, hrest⟩ := ih hitems hplainItems
    refine ⟨first :: rest, ?_⟩
    rw [List.mapM_cons, hfirst, hrest]
    rfl

/-! ## Decoded lists and read lists -/

section

variable {entries : Object} {key : String} (hdistinct : (Value.obj entries).Distinct)
  (hkey : key ∈ ["conditions", "actions"])

include hdistinct hkey

/-- A list that is decoded is read as it is decoded, and so is one that is not there. -/
theorem jobsOf_of_decoded (htext : ∀ item, Listed entries item → TextKinds item)
    {jobs : List Job}
    (h : (Keyed.find? key entries = none ∧ jobs = []) ∨
      ∃ v, Keyed.find? key entries = some v ∧ Decode.list Decode.job v = .ok jobs)
    (kind : JobKind) :
    JobsOf (some kind) (Keyed.find? key entries) (jobs.map (·.withKind kind)) := by
  obtain ⟨hnone, rfl⟩ | ⟨v, hv, hjobs⟩ := h
  · rw [hnone]
    exact .absent
  · cases v with
    | arr items =>
      have hitems := (Value.distinct_arr_iff items).1 (hdistinct.of_find? hv)
      rw [hv]
      exact .present (itemsOf_of_decoded hitems (fun item hitem => htext item ⟨hkey, hv, hitem⟩)
        hjobs (some kind))
    | null | bool | num | str | obj => cases hjobs

/-- A list that is read is decoded, where it is not null and its jobs are spelled as the
decoder wants them; and so is one that is not there. -/
theorem decoded_of_jobsOf (hplain : ∀ item, Listed entries item → Plain item)
    (hnull : Keyed.find? key entries ≠ some .null) {implied : Option JobKind} {jobs : List Job}
    (h : JobsOf implied (Keyed.find? key entries) jobs) :
    ∃ decoded, (Keyed.find? key entries = none ∧ decoded = []) ∨
      ∃ v, Keyed.find? key entries = some v ∧ Decode.list Decode.job v = .ok decoded := by
  generalize hfield : Keyed.find? key entries = field at h
  cases h with
  | absent => exact ⟨[], .inl ⟨rfl, rfl⟩⟩
  | null => exact absurd hfield hnull
  | @present items _ hjobs =>
    have hitems := (Value.distinct_arr_iff items).1 (hdistinct.of_find? hfield)
    obtain ⟨decoded, hdecoded⟩ := decoded_of_itemsOf hitems
      (fun item hitem => hplain item ⟨hkey, hfield, hitem⟩) hjobs
    exact ⟨decoded, .inr ⟨_, rfl, hdecoded⟩⟩

end

/-! ## Documents -/

theorem read_value_eq_iff {v : Value} (hdistinct : v.Distinct) {rule : Rule} :
    read diagnose (.value v) = .plain (.ok rule) ↔ RuleOf v rule := by
  rw [← ofValue_eq_ok_iff hdistinct, ← ofDocument_eq_ok_iff]
  simp [read, Noted.plain]

/-- **Reading a document agrees with decoding it.**  Where every item is a mapping and
every kind is a text, a document that is decoded as native jobs is read as these jobs; and
one that is read is decoded, where nothing is null, no field is given twice and kinds are
in lowercase. -/
theorem read_decoded :
    (∀ items : List Value, (Value.arr items).Distinct → (∀ item ∈ items, TextKinds item) →
      (∀ jobs, Decode.list Decode.job (.arr items) = .ok jobs →
        read diagnose (.value (.arr items)) = read diagnose (.jobs jobs)) ∧
      ((∀ item ∈ items, Plain item) →
        ∀ rule, (read diagnose (.value (.arr items))).value = .ok rule →
          ∃ jobs, Decode.list Decode.job (.arr items) = .ok jobs)) ∧
    ∀ entries : Object, (Value.obj entries).Distinct →
      ("conditions" ∈ Keyed.keys entries ∨ "actions" ∈ Keyed.keys entries) →
      (∀ item, Listed entries item → TextKinds item) →
      (∀ rule, Decode.groupedRule (.obj entries) = .ok rule →
        read diagnose (.value (.obj entries)) = read diagnose (.grouped rule)) ∧
      ((∀ item, Listed entries item → Plain item) →
        (∀ key ∈ ["conditions", "actions"], Keyed.find? key entries ≠ some .null) →
        ∀ rule, (read diagnose (.value (.obj entries))).value = .ok rule →
          ∃ grouped, Decode.groupedRule (.obj entries) = .ok grouped) := by
  refine ⟨?_, ?_⟩
  · intro items hdistinct htext
    have hitems := (Value.distinct_arr_iff items).1 hdistinct
    refine ⟨?_, ?_⟩
    · intro jobs hjobs
      have hall := itemsOf_of_decoded hitems htext hjobs none
      simp only [Option.getD_none, withKind_kind, List.map_id'] at hall
      exact (read_value_eq_iff hdistinct).2 (.flat hall)
    · intro hplain rule hrule
      have hmeans := (ofValue_eq_ok_iff hdistinct).1 (ofDocument_eq_ok_iff.1 hrule)
      cases hmeans with
      | flat hall => exact decoded_of_itemsOf hitems hplain hall
  · intro entries hdistinct hkeys htext
    have hnodup := ((Value.distinct_obj_iff entries).1 hdistinct).1
    refine ⟨?_, ?_⟩
    · intro rule hrule
      obtain ⟨hconditions, hactions⟩ := (Decode.groupedRule_obj_eq_ok_iff hnodup).1 hrule
      exact (read_value_eq_iff hdistinct).2 (.grouped hkeys
        (jobsOf_of_decoded hdistinct (by simp) htext hconditions .condition)
        (jobsOf_of_decoded hdistinct (by simp) htext hactions .action))
    · intro hplain hnull rule hrule
      have hmeans := (ofValue_eq_ok_iff hdistinct).1 (ofDocument_eq_ok_iff.1 hrule)
      cases hmeans with
      | grouped _ hconditions hactions =>
        obtain ⟨conditions, hconditions⟩ :=
          decoded_of_jobsOf hdistinct (by simp) hplain (hnull _ (by simp)) hconditions
        obtain ⟨actions, hactions⟩ :=
          decoded_of_jobsOf hdistinct (by simp) hplain (hnull _ (by simp)) hactions
        exact ⟨⟨conditions, actions⟩,
          (Decode.groupedRule_obj_eq_ok_iff hnodup).2 ⟨hconditions, hactions⟩⟩

/-- A list of two jobs, of which one uses the second spelling of both its keys. -/
def aliasedItems : List Value :=
  [.obj [("job_type", .str "action"), ("name", .str "notify"), ("arguments", .obj [("b", .null)]),
      ("note", .null)],
    .obj [("name", .str "guess"), ("kind", .str "generic")]]

/-- A mapping with one of the two lists, whose job gives a kind that does not count, and with
a key that the decoder does not know. -/
def aliasedEntries : Object :=
  [("note", .null), ("conditions", .arr [.obj [("name", .str "check"), ("job_type", .str "job")]])]

theorem textKinds_aliasedItems : ∀ item ∈ aliasedItems, TextKinds item := by
  intro item hitem
  simp only [aliasedItems, List.mem_cons, List.not_mem_nil, or_false] at hitem
  obtain rfl | rfl := hitem <;> exact ⟨by simp [Keyed.find?]⟩

theorem plain_aliasedItems : ∀ item ∈ aliasedItems, Plain item := by
  have haction : Text.lowercase "action" = "action" := by rfl
  have hgeneric : Text.lowercase "generic" = "generic" := by rfl
  intro item hitem
  simp only [aliasedItems, List.mem_cons, List.not_mem_nil, or_false] at hitem
  obtain rfl | rfl := hitem
  · exact ⟨by simp [Keyed.find?], .inl rfl, .inl rfl, by simp [Keyed.find?, haction]⟩
  · exact ⟨by simp [Keyed.find?], .inl rfl, .inr rfl, by simp [Keyed.find?, hgeneric]⟩

theorem listed_aliasedEntries {item : Value} (h : Listed aliasedEntries item) :
    item = .obj [("name", .str "check"), ("job_type", .str "job")] := by
  obtain ⟨hkey, hlist, hitem⟩ := h
  simp only [List.mem_cons, List.not_mem_nil, or_false] at hkey
  obtain rfl | rfl := hkey
  · cases hlist
    simpa using hitem
  · cases hlist

theorem read_decoded_aliases :
    (Value.arr aliasedItems).Distinct ∧ (Value.obj aliasedEntries).Distinct ∧
      read .terse (.value (.arr aliasedItems)) =
        read .terse (.jobs [⟨"notify", .action, [("b", .null)]⟩, ⟨"guess", .job, []⟩]) ∧
      (∃ jobs, Decode.list Decode.job (.arr aliasedItems) = .ok jobs) ∧
      read .terse (.value (.obj aliasedEntries)) =
        read .terse (.grouped ⟨[⟨"check", .job, []⟩], []⟩) ∧
      ∃ grouped, Decode.groupedRule (.obj aliasedEntries) = .ok grouped := by
  have hitems : (Value.arr aliasedItems).Distinct := by
    simp [aliasedItems, Value.Distinct, Value.DistinctEntries, Value.DistinctItems]
  have hentries : (Value.obj aliasedEntries).Distinct := by
    simp [aliasedEntries, Value.Distinct, Value.DistinctEntries, Value.DistinctItems]
  have htext : ∀ item, Listed aliasedEntries item → TextKinds item := by
    intro item hitem
    rw [listed_aliasedEntries hitem]
    exact ⟨by simp [Keyed.find?]⟩
  have hplain : ∀ item, Listed aliasedEntries item → Plain item := by
    have hjob : Text.lowercase "job" = "job" := by rfl
    intro item hitem
    rw [listed_aliasedEntries hitem]
    exact ⟨by simp [Keyed.find?], .inl rfl, .inl rfl, by simp [Keyed.find?, hjob]⟩
  have hnull : ∀ key ∈ ["conditions", "actions"], Keyed.find? key aliasedEntries ≠ some .null := by
    simp [aliasedEntries, Keyed.find?]
  obtain ⟨hflat, hgrouped⟩ := read_decoded
  obtain ⟨hread, hdecoded⟩ := hflat aliasedItems hitems textKinds_aliasedItems
  obtain ⟨hread', hdecoded'⟩ := hgrouped aliasedEntries hentries (.inl (by decide)) htext
  exact ⟨hitems, hentries, hread _ (by rfl), hdecoded plain_aliasedItems _ (by rfl),
    hread' _ (by rfl), hdecoded' hplain hnull _ (by rfl)⟩

end Rule

end RuleEngine
