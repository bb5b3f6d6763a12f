import RuleEngine.Proofs.Rule.KeyOrder

/-!
# RuleEngine.Proofs.Rule.NullFields

A job with a null field, and the same job without the entry.

1. `Drops` deletes the entries at some keys; what is found at the other keys stays.
2. `Replaces` puts an item in the place of another one, anywhere in a document.  An item that is
   read alike in its place changes nothing (`Replaces.ofValue_eq`), and where both documents are
   the same rule the two items are the same job (`Replaces.exists_jobOf`).
3. A null field reads as an absent one.  But of the two spellings of a field the first that is
   present counts, so that a null there hides what stands under the second (`Hides`); the field
   is then absent, and deleting the null makes the other spelling count (`read_withoutNull`).
-/

namespace RuleEngine

namespace Rule

variable {diagnose : Diagnosis}

/-! ## Deletion -/

/-- The second mapping has the entries of the first one, in any order, but for those at the
dropped keys. -/
def Drops (dropped : List String) (entries others : Object) : Prop :=
  others.Perm (entries.filter (·.1 ∉ dropped))

section

variable {dropped : List String} {entries others : Object}

theorem Drops.nodup (h : Drops dropped entries others) (hentries : (Keyed.keys entries).Nodup) :
    (Keyed.keys others).Nodup :=
  (h.map Prod.fst).nodup_iff.2 (hentries.sublist (List.filter_sublist.map _))

theorem Drops.find? (h : Drops dropped entries others) (hentries : (Keyed.keys entries).Nodup)
    (key : String) :
    Keyed.find? key others = if key ∈ dropped then none else Keyed.find? key entries := by
  rw [Keyed.find?_perm (hentries.sublist (List.filter_sublist.map _)) h,
    Keyed.find?_filter (decide <| · ∉ dropped)]
  by_cases hkey : key ∈ dropped <;> simp [hkey]

theorem either_of_find? {first : String} {v : Value} (h : Keyed.find? first entries = some v)
    (second : String) : either first second entries = some v := by
  rw [either, h, Option.some_or]

/-- Without the first spelling, the second one counts. -/
theorem Drops.either_first {first second : String} (h : Drops [first] entries others)
    (hentries : (Keyed.keys entries).Nodup) (hne : second ≠ first) :
    either first second others = Keyed.find? second entries := by
  rw [either, h.find? hentries, h.find? hentries, if_pos (List.mem_singleton_self _),
    if_neg (mt List.mem_singleton.1 hne), Option.none_or]

end

/-! ## Replacement -/

/-- The second document has `other` in the place of an item of the first one, in a list that
implies the given kind. -/
inductive Replaces (item other : Value) : Option JobKind → Value → Value → Prop
  | flat (before after : List Value) :
    Replaces item other none (.arr (before ++ item :: after)) (.arr (before ++ other :: after))
  | grouped {entries : Object} {key : String} {kind : JobKind} {before after : List Value}
    (hkey : (key, kind) ∈ impliedKinds)
    (hlist : Keyed.find? key entries = some (.arr (before ++ item :: after))) :
    Replaces item other (some kind) (.obj entries)
      (.obj (Keyed.set key (.arr (before ++ other :: after)) entries))

section

variable {item other v w : Value} {implied : Option JobKind} {before after : List Value}

theorem impliedKinds_unique {key : String} {kind other : JobKind} (h : (key, kind) ∈ impliedKinds)
    (hother : (key, other) ∈ impliedKinds) : kind = other := by
  simp only [impliedKinds, List.mem_cons, Prod.mk.injEq, List.not_mem_nil, or_false] at h hother
  obtain ⟨rfl, rfl⟩ | ⟨rfl, rfl⟩ := h
  · exact (hother.resolve_right (by simp)).2.symm
  · exact (hother.resolve_left (by simp)).2.symm

theorem Replaces.distinct (h : Replaces item other implied v w) (hv : v.Distinct) :
    item.Distinct := by
  cases h with
  | flat before after => exact (Value.distinct_arr_iff _).1 hv item (by simp)
  | grouped _ hlist => exact (Value.distinct_arr_iff _).1 (hv.of_find? hlist) item (by simp)

theorem readJobs_replaced
    (h : ∀ index, readJob implied index item = readJob implied index other) (index : Nat) :
    readJobs implied index (before ++ item :: after) =
      readJobs implied index (before ++ other :: after) := by
  induction before generalizing index with
  | nil => rw [List.nil_append, List.nil_append, readJobs, readJobs, h]
  | cons first before ih => rw [List.cons_append, List.cons_append, readJobs, readJobs, ih]

/-- An item that is read like another one can stand in its place. -/
theorem Replaces.ofValue_eq (hreplaces : Replaces item other implied v w) (hv : v.Distinct)
    (hw : w.Distinct) (h : ∀ index, readJob implied index item = readJob implied index other) :
    ofValue v = ofValue w := by
  cases hreplaces with
  | flat before after => rw [ofValue, ofValue, readJobs_replaced h]
  | @grouped entries key kind before after hkey hlist =>
    refine readGrouped_congr ((Value.distinct_obj_iff _).1 hv).1 ((Value.distinct_obj_iff _).1 hw).1
      (fun k _ => ?_) fun k kind' hk => ?_
    · rw [Keyed.has, Keyed.has, Keyed.find?_set]
      split
      · next hk => rw [hk, hlist, Option.isSome, Option.isSome]
      · rfl
    · rw [Keyed.find?_set]
      split
      · next hk' =>
        subst hk'
        obtain rfl := impliedKinds_unique hk hkey
        rw [hlist, readList, readList, Except.map, Except.map, readJobs_replaced h]
      · rfl

theorem jobsOf_unique {field : Option Value} (h : ∀ v, field = some v → v.Distinct)
    {jobs others : List Job} (hjobs : JobsOf implied field jobs)
    (hothers : JobsOf implied field others) : jobs = others := by
  cases hjobs with
  | absent | null =>
    cases hothers
    rfl
  | @present items jobs hitems =>
    cases hothers with
    | present hothers =>
      have hread (jobs : List Job) :
          readJobs implied 0 items = .ok jobs ↔ ItemsOf implied items jobs :=
        readJobs_eq_ok_iff ((Value.distinct_arr_iff items).1 (h _ rfl))
      exact Except.ok.inj (((hread _).2 hitems).symm.trans ((hread _).2 hothers))

/-- The items in the same place of two lists are the same job when the jobs of both lists begin
the same list. -/
theorem exists_jobOf_of_itemsOf {jobs others all : List Job}
    (hjobs : ItemsOf implied (before ++ item :: after) jobs)
    (hothers : ItemsOf implied (before ++ other :: after) others) (hbegins : jobs <+: all)
    (hbegins' : others <+: all) : ∃ job, JobOf implied item job ∧ JobOf implied other job := by
  induction before generalizing jobs others all with
  | nil =>
    cases hjobs with
    | cons hjob _ =>
      cases hothers with
      | cons hother _ =>
        obtain ⟨rest, rfl, -⟩ := List.cons_prefix_iff.1 hbegins
        obtain ⟨_, heq, -⟩ := List.cons_prefix_iff.1 hbegins'
        cases heq
        exact ⟨_, hjob, hother⟩
  | cons first before ih =>
    cases hjobs with
    | cons _ hjobs =>
      cases hothers with
      | cons _ hothers =>
        obtain ⟨rest, rfl, hrest⟩ := List.cons_prefix_iff.1 hbegins
        obtain ⟨_, heq, hrest'⟩ := List.cons_prefix_iff.1 hbegins'
        cases heq
        exact ih hjobs hothers hrest hrest'

/-- Where the two documents are rules of the same jobs, the two items are the same job. -/
theorem Replaces.exists_jobOf (h : Replaces item other implied v w) (hv : v.Distinct)
    {rule rule' : Rule} (hrule : RuleOf v rule) (hrule' : RuleOf w rule')
    (hjobs : rule.jobs = rule'.jobs) : ∃ job, JobOf implied item job ∧ JobOf implied other job := by
  cases h with
  | flat before after =>
    cases hrule with
    | flat hitems =>
      cases hrule' with
      | flat hothers =>
        obtain rfl : _ = _ := hjobs
        exact exists_jobOf_of_itemsOf hitems hothers List.prefix_rfl List.prefix_rfl
  | @grouped entries key kind before after hkey hlist =>
    cases hrule with
    | @grouped _ conditions actions _ hconditions hactions =>
      cases hrule' with
      | @grouped _ conditions' actions' _ hconditions' hactions' =>
        have heq : conditions ++ actions = conditions' ++ actions' := hjobs
        obtain ⟨rfl, rfl⟩ | ⟨rfl, rfl⟩ : key = "conditions" ∧ kind = .condition ∨
            key = "actions" ∧ kind = .action := by simpa [impliedKinds] using hkey
        · rw [hlist] at hconditions
          rw [Keyed.find?_set, if_pos rfl] at hconditions'
          obtain _ | _ | hitems := hconditions
          obtain _ | _ | hothers := hconditions'
          exact exists_jobOf_of_itemsOf hitems hothers (List.prefix_append conditions actions)
            (heq ▸ List.prefix_append conditions' actions')
        · rw [Keyed.find?_set, if_neg (by decide)] at hconditions'
          obtain rfl := jobsOf_unique (fun _ => hv.of_find?) hconditions hconditions'
          obtain rfl := List.append_cancel_left heq
          rw [hlist] at hactions
          rw [Keyed.find?_set, if_pos rfl] at hactions'
          obtain _ | _ | hitems := hactions
          obtain _ | _ | hothers := hactions'
          exact exists_jobOf_of_itemsOf hitems hothers List.prefix_rfl List.prefix_rfl

end

/-! ## Null fields -/

/-- A null at the key hides the value at the other spelling of the field, which does not read as
an absent field does.  Under a list that implies the kind, every kind reads like an absent one. -/
inductive Hides (implied : Option JobKind) (entries : Object) : String → String → Prop
  | args (h : ¬ ArgsOf (Keyed.find? "arguments" entries) []) :
    Hides implied entries "args" "arguments"
  | kind (h : ∀ kind, KindOf (Keyed.find? "job_type" entries) kind →
      implied.getD kind ≠ implied.getD .job) : Hides implied entries "kind" "job_type"

section

variable {entries others : Object} {implied : Option JobKind} {key hidden : String}
variable {dropped : List String}

/-- Without entries of the arguments an item is read alike when its arguments are. -/
theorem Drops.readJob_args (hdrops : Drops dropped entries others)
    (h : (Keyed.keys entries).Nodup) (hdropped : dropped ⊆ ["args", "arguments"])
    (hargs : ∀ name, readArgs name (either "args" "arguments" entries) =
      readArgs name (either "args" "arguments" others)) (index : Nat) :
    readJob implied index (.obj entries) = readJob implied index (.obj others) := by
  have hkept {k : String} (hk : k ∉ ["args", "arguments"]) :
      Keyed.find? k others = Keyed.find? k entries := by
    rw [hdrops.find? h, if_neg fun hmem => hk (hdropped hmem)]
  have hkind : either "kind" "job_type" others = either "kind" "job_type" entries := by
    rw [either, either, hkept (by decide), hkept (by decide)]
  rw [readJob_obj h, readJob_obj (hdrops.nodup h), hkept (by decide), hkind]
  simp only [hargs]

/-- Without entries of the kind an item is read alike when the kind that it has in its list
is. -/
theorem Drops.readJob_kind (hdrops : Drops dropped entries others)
    (h : (Keyed.keys entries).Nodup) (hdropped : dropped ⊆ ["kind", "job_type"])
    (hkind : ∀ name, (readKind name (either "kind" "job_type" entries)).map implied.getD =
      (readKind name (either "kind" "job_type" others)).map implied.getD) (index : Nat) :
    readJob implied index (.obj entries) = readJob implied index (.obj others) := by
  have hkept {k : String} (hk : k ∉ ["kind", "job_type"]) :
      Keyed.find? k others = Keyed.find? k entries := by
    rw [hdrops.find? h, if_neg fun hmem => hk (hdropped hmem)]
  have hargs : either "args" "arguments" others = either "args" "arguments" entries := by
    rw [either, either, hkept (by decide), hkept (by decide)]
  have hlast (name : String) (args : Object) (x : Except Fault JobKind) :
      (do let kind ← x; .ok ⟨name, implied.getD kind, args⟩ : Except Fault Job) =
        (x.map implied.getD).map fun kind => ⟨name, kind, args⟩ := by
    cases x <;> rfl
  rw [readJob_obj h, readJob_obj (hdrops.nodup h), hkept (by decide), hargs]
  simp only [hlast, hkind]

/-- Deleting a null that hides nothing does not change what is read of a job. -/
theorem readJob_withoutNull (h : (Keyed.keys entries).Nodup)
    (hkey : key ∈ ["args", "arguments", "kind", "job_type"])
    (hnull : Keyed.find? key entries = some .null) (hdrops : Drops [key] entries others)
    (hhides : ∀ hidden, ¬ Hides implied entries key hidden) (index : Nat) :
    readJob implied index (.obj entries) = readJob implied index (.obj others) := by
  simp only [List.mem_cons, List.not_mem_nil, or_false] at hkey
  obtain rfl | rfl | rfl | rfl := hkey
  · have habsent : ArgsOf (Keyed.find? "arguments" entries) [] :=
      Classical.not_not.1 fun hread => hhides _ (.args hread)
    refine hdrops.readJob_args h (by simp) (fun name => ?_) index
    rw [either_of_find? hnull, hdrops.either_first h (by decide), readArgs_eq_ok_iff.2 habsent]
    rfl
  · -- the first spelling counts where it is present, null or not
    refine hdrops.readJob_args h (by simp) (fun name => ?_) index
    rw [either, either, hdrops.find? h, hdrops.find? h, hnull]
    cases Keyed.find? "args" entries <;> rfl
  · obtain ⟨kind, habsent, heq⟩ : ∃ kind, KindOf (Keyed.find? "job_type" entries) kind ∧
        implied.getD kind = implied.getD .job := by
      by_contra hnone
      exact hhides _ (.kind fun kind hkind heq => hnone ⟨kind, hkind, heq⟩)
    refine hdrops.readJob_kind h (by simp) (fun name => ?_) index
    rw [either_of_find? hnull, hdrops.either_first h (by decide), readKind_eq_ok_iff.2 habsent,
      readKind, Except.map, Except.map, heq]
  · refine hdrops.readJob_kind h (by simp) (fun name => ?_) index
    rw [either, either, hdrops.find? h, hdrops.find? h, hnull]
    cases Keyed.find? "kind" entries <;> rfl

/-- A null that hides the other spelling leaves the field absent. -/
theorem readJob_withoutEither (h : (Keyed.keys entries).Nodup)
    (hhides : Hides implied entries key hidden) (hnull : Keyed.find? key entries = some .null)
    (hdrops : Drops [key, hidden] entries others) (index : Nat) :
    readJob implied index (.obj entries) = readJob implied index (.obj others) := by
  cases hhides with
  | args =>
    refine hdrops.readJob_args h (List.Subset.refl _) (fun name => ?_) index
    rw [either_of_find? hnull, either, hdrops.find? h, hdrops.find? h]
    rfl
  | kind =>
    refine hdrops.readJob_kind h (List.Subset.refl _) (fun name => ?_) index
    rw [either_of_find? hnull, either, hdrops.find? h, hdrops.find? h]
    rfl

/-- A null that hides the other spelling makes another job of the item. -/
theorem not_jobOf_withoutNull (h : (Keyed.keys entries).Nodup)
    (hhides : Hides implied entries key hidden) (hnull : Keyed.find? key entries = some .null)
    (hdrops : Drops [key] entries others) {job : Job} (hjob : JobOf implied (.obj entries) job) :
    ¬ JobOf implied (.obj others) job := by
  intro hother
  generalize hsame : job = job' at hother
  cases hjob with
  | intro _ hargs hkind =>
    cases hother with
    | intro _ hargs' hkind' =>
      obtain ⟨-, hkinds, rfl⟩ := Job.mk.inj hsame
      cases hhides with
      | args hhidden =>
        rw [either_of_find? hnull] at hargs
        rw [hdrops.either_first h (by decide)] at hargs'
        cases hargs
        exact hhidden hargs'
      | kind hhidden =>
        rw [either_of_find? hnull] at hkind
        rw [hdrops.either_first h (by decide)] at hkind'
        cases hkind
        exact hhidden _ hkind' hkinds.symm

end

/-- **A null field is an absent one.**  Deleting a null from a job, anywhere in a document, does
not change what is read, unless the null hides the other spelling of its field.  Then it changes
every document that is a rule, and the field is absent as it is without both spellings. -/
theorem read_withoutNull {input other : RuleInput} {v w : Value}
    (hinput : DocumentOf diagnose input v) (hother : DocumentOf diagnose other w)
    {entries others : Object} {key : String}
    (hkey : key ∈ ["args", "arguments", "kind", "job_type"])
    (hnull : Keyed.find? key entries = some .null) (hdrops : Drops [key] entries others)
    {implied : Option JobKind} (hreplaces : Replaces (.obj entries) (.obj others) implied v w) :
    ((∀ hidden, ¬ Hides implied entries key hidden) → read diagnose input = read diagnose other) ∧
      ∀ hidden, Hides implied entries key hidden →
        (∀ rule, (read diagnose input).value = .ok rule → (read diagnose other).value ≠ .ok rule) ∧
          ∀ third u bare, DocumentOf diagnose third u → Drops [key, hidden] entries bare →
            Replaces (.obj entries) (.obj bare) implied v u →
              read diagnose input = read diagnose third := by
  obtain ⟨hread, hv⟩ := hinput.read_eq
  obtain ⟨hread', hw⟩ := hother.read_eq
  have hentries := ((Value.distinct_obj_iff entries).1 (hreplaces.distinct hv)).1
  refine ⟨fun hhides => ?_, fun hidden hhides => ⟨fun rule hrule hrule' => ?_, ?_⟩⟩
  · rw [hread, hread', ofDocument, ofDocument, hreplaces.ofValue_eq hv hw
      (readJob_withoutNull hentries hkey hnull hdrops hhides)]
  · rw [hread] at hrule
    rw [hread'] at hrule'
    have hmeans := (ofValue_eq_ok_iff hv).1 (ofDocument_eq_ok_iff.1 hrule)
    have hmeans' := (ofValue_eq_ok_iff hw).1 (ofDocument_eq_ok_iff.1 hrule')
    obtain ⟨job, hjob, hjob'⟩ := hreplaces.exists_jobOf hv hmeans hmeans' rfl
    exact not_jobOf_withoutNull hentries hhides hnull hdrops hjob hjob'
  · intro third u bare hthird hbare hreplaces'
    obtain ⟨hread'', hu⟩ := hthird.read_eq
    rw [hread, hread'', ofDocument, ofDocument, hreplaces'.ofValue_eq hv hu
      (readJob_withoutEither hentries hhides hnull hbare)]

/-- A job with arguments under the second spelling. -/
def spelledJob : Object := [("name", .str "f"), ("arguments", .obj [("x", .bool true)])]

/-- The same job with a null under the first spelling. -/
def nulledJob : Object :=
  [("name", .str "f"), ("args", .null), ("arguments", .obj [("x", .bool true)])]

theorem distinct_single {entries : Object} (h : (Value.obj entries).Distinct) :
    (Value.arr [.obj entries]).Distinct :=
  (Value.distinct_arr_iff _).2 (List.forall_mem_singleton.2 h)

theorem distinct_spelledJob : (Value.obj spelledJob).Distinct := by
  simp [spelledJob, Value.Distinct, Value.DistinctEntries]

theorem distinct_nulledJob : (Value.obj nulledJob).Distinct := by
  simp [nulledJob, Value.Distinct, Value.DistinctEntries]

/-- A condition with a null and a kind, which does not count in the list of the conditions. -/
def nulledCondition : Object :=
  [("kind", .null), ("job_type", .str "action"), ("name", .str "c")]

/-- The same condition without the null. -/
def spelledCondition : Object := [("job_type", .str "action"), ("name", .str "c")]

/-- A null that hides arguments, and one that hides nothing. -/
theorem read_withoutNull_nulledJob :
    let flat (entries : Object) : Value := .arr [.obj entries]
    let grouped (entries : Object) : Value := .obj [("conditions", .arr [.obj entries])]
    Hides none nulledJob "args" "arguments" ∧
      (read .terse (.value (flat nulledJob))).value = .ok ⟨[⟨"f", .job, []⟩], .flat⟩ ∧
      (read .terse (.value (flat spelledJob))).value ≠ .ok ⟨[⟨"f", .job, []⟩], .flat⟩ ∧
      read .terse (.value (flat nulledJob)) = read .terse (.value (flat [("name", .str "f")])) ∧
      (∀ hidden, ¬ Hides (some .condition) nulledCondition "kind" hidden) ∧
      read .terse (.value (grouped nulledCondition)) =
        read .terse (.value (grouped spelledCondition)) := by
  intro flat grouped
  have hread : (read .terse (.value (flat nulledJob))).value =
      .ok ⟨[⟨"f", .job, []⟩], .flat⟩ := by rfl
  have hbare : (Value.obj [("name", .str "f")]).Distinct := by
    simp [Value.Distinct, Value.DistinctEntries]
  have hhides : Hides none nulledJob "args" "arguments" := by
    refine .args fun habsent => ?_
    cases habsent
  have hdrops : Drops ["args"] nulledJob spelledJob := List.Perm.refl _
  have hplace (others : Object) :
      Replaces (.obj nulledJob) (.obj others) none (flat nulledJob) (flat others) := .flat [] []
  obtain ⟨hother, hthird⟩ := (read_withoutNull (.value (distinct_single distinct_nulledJob))
    (.value (distinct_single distinct_spelledJob)) (.head _) (by rfl) hdrops (hplace _)).2 _ hhides
  have hshown (hidden : String) : ¬ Hides (some .condition) nulledCondition "kind" hidden := by
    generalize hkey : "kind" = key
    intro hhides
    cases hhides with
    | args => simp at hkey
    | kind h => exact h .action (.action (by decide)) rfl
  have hcondition : (grouped nulledCondition).Distinct := by
    simp [grouped, nulledCondition, Value.Distinct, Value.DistinctEntries, Value.DistinctItems]
  have hcondition' : (grouped spelledCondition).Distinct := by
    simp [grouped, spelledCondition, Value.Distinct, Value.DistinctEntries, Value.DistinctItems]
  have hdrops' : Drops ["kind"] nulledCondition spelledCondition := List.Perm.refl _
  have hlist : Keyed.find? "conditions" [("conditions", Value.arr [.obj nulledCondition])] =
      some (.arr ([] ++ .obj nulledCondition :: [])) := rfl
  have hplace' : Replaces (.obj nulledCondition) (.obj spelledCondition) (some .condition)
      (grouped nulledCondition) (grouped spelledCondition) := .grouped (.head _) hlist
  obtain ⟨hsame, -⟩ := read_withoutNull (.value hcondition) (.value hcondition')
    (.tail _ (.tail _ (.head _))) (by rfl) hdrops' hplace'
  exact ⟨hhides, hread, hother _ hread,
    hthird _ _ _ (.value (distinct_single hbare)) (List.Perm.refl _) (hplace _), hshown,
    hsame hshown⟩

/-- The same document with and without the null. -/
theorem read_nulledJob_ne_spelledJob :
    (Value.arr [.obj nulledJob]).Distinct ∧ (Value.arr [.obj spelledJob]).Distinct ∧
      Keyed.find? "args" nulledJob = some .null ∧ spelledJob = nulledJob.filter (·.1 ≠ "args") ∧
      (read .terse (.value (.arr [.obj nulledJob]))).value = .ok ⟨[⟨"f", .job, []⟩], .flat⟩ ∧
      (read .terse (.value (.arr [.obj spelledJob]))).value =
        .ok ⟨[⟨"f", .job, [("x", .bool true)]⟩], .flat⟩ ∧
      read .terse (.value (.arr [.obj nulledJob])) ≠
        read .terse (.value (.arr [.obj spelledJob])) := by
  have hnulled : (read .terse (.value (.arr [.obj nulledJob]))).value =
      .ok ⟨[⟨"f", .job, []⟩], .flat⟩ := by
    rfl
  have hspelled : (read .terse (.value (.arr [.obj spelledJob]))).value =
      .ok ⟨[⟨"f", .job, [("x", .bool true)]⟩], .flat⟩ := by
    rfl
  refine ⟨distinct_single distinct_nulledJob, distinct_single distinct_spelledJob, by rfl, by rfl,
    hnulled, hspelled, fun heq => ?_⟩
  rw [heq, hspelled] at hnulled
  cases hnulled

end Rule

end RuleEngine
