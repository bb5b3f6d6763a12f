import RuleEngine.Proofs.Rule.KeyOrder

/-!
# RuleEngine.Proofs.Rule.FirstFault

Which fault is reported of a document that has several.

1. A `Check` is what is asked of a part of a document, with the fault that is told when it does
   not hold; `checks` lists those of a document in order: the two lists of a mapping, then the
   jobs of one list after the other, each with the checks of its item, its name, its arguments
   and its kind.
2. A reader follows checks when it fails with the fault of the first of them that does not hold,
   and in no other way (`Follows`).  Readers that run one after the other follow the checks of
   the one and then those of the other (`Follows.bind`), which leaves one lemma for each part of
   the reader.
3. A fault in a job is decided by the jobs up to that one (`RejectedAt`): those before it are
   jobs, and nothing after it counts.
-/

namespace RuleEngine

namespace Fault

/-- The position that the text of a fault tells. -/
def position? : Fault → Option Nat
  | .notAJob index _ | .badName index _ | .noName index => some index
  | _ => none

theorem message_of_position? {fault : Fault} {index : Nat} (h : fault.position? = some index) :
    ∃ rest, fault.message = "job #" ++ toString index ++ rest := by
  cases fault with
  | notAJob _ typeName =>
    cases h
    exact ⟨" must be a mapping, got " ++ typeName, String.append_assoc⟩
  | badName _ typeName =>
    cases h
    exact ⟨" 'name' must be a string, got " ++ typeName, String.append_assoc⟩
  | noName =>
    cases h
    exact ⟨" missing 'name'", rfl⟩
  | notARule | noLists | notAList | badArgs | badKind | unknownKind | other => cases h

end Fault

namespace Rule

variable {diagnose : Diagnosis}

/-! ## Checks -/

/-- What is asked of a part of a document, and the fault that is told when it does not hold. -/
structure Check where
  Passes : Prop
  fault : Fault

/-- The fault of the first check that does not hold. -/
inductive FirstFailing : List Check → Fault → Prop
  | here {check : Check} {checks : List Check} (h : ¬ check.Passes) :
    FirstFailing (check :: checks) check.fault
  | later {check : Check} {checks : List Check} {fault : Fault} (h : check.Passes)
    (hlater : FirstFailing checks fault) : FirstFailing (check :: checks) fault

namespace FirstFailing

variable {check : Check} {checks others : List Check} {fault : Fault}

theorem cons_iff : FirstFailing (check :: checks) fault ↔
    ¬ check.Passes ∧ fault = check.fault ∨ check.Passes ∧ FirstFailing checks fault := by
  constructor
  · intro h
    cases h with
    | here h => exact .inl ⟨h, rfl⟩
    | later h hlater => exact .inr ⟨h, hlater⟩
  · intro h
    obtain ⟨h, rfl⟩ | ⟨h, hlater⟩ := h
    · exact .here h
    · exact .later h hlater

theorem exists_mem (h : FirstFailing checks fault) : ∃ check ∈ checks, fault = check.fault := by
  induction h with
  | here => exact ⟨_, .head _, rfl⟩
  | later _ _ ih =>
    obtain ⟨check, hmem, hfault⟩ := ih
    exact ⟨check, .tail _ hmem, hfault⟩

/-- Some check fails first unless all of them hold. -/
theorem forall_passes_iff :
    (∀ check ∈ checks, check.Passes) ↔ ∀ fault, ¬ FirstFailing checks fault := by
  induction checks with
  | nil => exact iff_of_true (List.forall_mem_nil _) nofun
  | cons check checks ih =>
    rw [List.forall_mem_cons, ih]
    simp only [cons_iff]
    by_cases h : check.Passes
    · simp [h]
    · simp [h]

theorem append_iff : FirstFailing (checks ++ others) fault ↔
    FirstFailing checks fault ∨ (∀ check ∈ checks, check.Passes) ∧ FirstFailing others fault := by
  induction checks with
  | nil => simpa using nofun
  | cons check checks ih =>
    rw [List.cons_append, cons_iff, cons_iff, ih, List.forall_mem_cons]
    tauto

/-- The checks of a part fail first when those of all parts before it hold. -/
theorem flatMap_iff {α : Type} {parts : List α} {checksOf : α → List Check} :
    FirstFailing (parts.flatMap checksOf) fault ↔
      ∃ before part after, parts = before ++ part :: after ∧
        (∀ check ∈ before.flatMap checksOf, check.Passes) ∧
        FirstFailing (checksOf part) fault := by
  induction parts with
  | nil => exact iff_of_false nofun (by simp)
  | cons part parts ih =>
    rw [List.flatMap_cons, append_iff, ih]
    constructor
    · intro h
      obtain h | ⟨hpart, before, failing, after, rfl, hbefore, hfails⟩ := h
      · exact ⟨[], part, parts, rfl, List.forall_mem_nil _, h⟩
      · exact ⟨part :: before, failing, after, rfl, List.forall_mem_append.2 ⟨hpart, hbefore⟩,
          hfails⟩
    · intro h
      obtain ⟨before, failing, after, heq, hbefore, hfails⟩ := h
      cases before with
      | nil =>
        cases heq
        exact .inl hfails
      | cons first before =>
        cases heq
        obtain ⟨hfirst, hbefore⟩ := List.forall_mem_append.1 hbefore
        exact .inr ⟨hfirst, before, failing, after, rfl, hbefore, hfails⟩

end FirstFailing

/-! ## The checks of a document -/

/-- A list. -/
inductive IsList : Value → Prop
  | intro (items : List Value) : IsList (.arr items)

/-- The check of a field that may be absent or null. -/
def fieldCheck (P : Value → Prop) (fault : Value → Fault) (field : Option Value) : Check :=
  ⟨Optional P field, fault (field.getD .null)⟩

/-- The text of a field, empty when it holds none. -/
def textOf (field : Option Value) : String := (field.bind Value.asString?).getD ""

/-- The items of a field, none when it holds no list. -/
def itemsAt (field : Option Value) : List Value := (field.bind Value.asItems?).getD []

/-- The fault of a name that is absent or no text. -/
def nameFault (index : Nat) : Option Value → Fault
  | some v => .badName index v.typeName
  | none => .noName index

/-- The fault of a kind that is no text, or a text that names none. -/
def kindFault (name : String) : Value → Fault
  | .str text => .unknownKind (Text.lowercase text)
  | v => .badKind name v.typeName

theorem position?_nameFault (index : Nat) (field : Option Value) :
    (nameFault index field).position? = some index := by
  cases field <;> rfl

theorem position?_kindFault (name : String) (v : Value) : (kindFault name v).position? = none := by
  cases v <;> rfl

/-- The checks of the fields of a mapping that is a job: its name, its arguments and its kind.
The last two come to count when there is a name. -/
def fieldChecks (index : Nat) : Value → List Check
  | .obj entries =>
    let name := Keyed.find? "name" entries
    [⟨∃ text, name = some (.str text), nameFault index name⟩,
      fieldCheck IsMapping (.badArgs (textOf name) ·.typeName) (either "args" "arguments" entries),
      fieldCheck IsKind (kindFault (textOf name)) (either "kind" "job_type" entries)]
  | _ => []

/-- The checks of the item at a position of its list. -/
def jobChecks (index : Nat) (item : Value) : List Check :=
  ⟨IsMapping item, .notAJob index item.typeName⟩ :: fieldChecks index item

/-- The checks of the items of a list, whose first item has the given position. -/
def itemChecks (index : Nat) (items : List Value) : List Check :=
  (items.zipIdx index).flatMap fun entry => jobChecks entry.2 entry.1

/-- The lists of jobs of a document, in order. -/
def jobLists : Value → List (List Value)
  | .arr items => [items]
  | .obj entries =>
    [itemsAt (Keyed.find? "conditions" entries), itemsAt (Keyed.find? "actions" entries)]
  | _ => []

/-- The checks of the fields that hold the lists. -/
def listChecks : Value → List Check
  | .obj entries =>
    ruleKeys.map fun key =>
      fieldCheck IsList (.notAList key ·.typeName) (Keyed.find? key entries)
  | _ => []

/-- The checks of a document: those of its lists, and then those of the jobs in them, counted
from the start of each list. -/
def checks (v : Value) : List Check := listChecks v ++ (jobLists v).flatMap (itemChecks 0)

/-! ## Readers and checks -/

/-- The reader fails with the fault of the first check that does not hold, and in no other
way. -/
def Follows {α : Type} (x : Except Fault α) (checks : List Check) : Prop :=
  ∀ fault, x = .error fault ↔ FirstFailing checks fault

namespace Follows

variable {α β : Type} {x : Except Fault α} {checks others : List Check}

theorem ok (a : α) : Follows (.ok a) [] := fun _ => iff_of_false nofun nofun

theorem error (check : Check) (h : ¬ check.Passes) :
    Follows (.error check.fault : Except Fault α) (check :: checks) := by
  intro fault
  rw [FirstFailing.cons_iff]
  simp [h, eq_comm]

theorem cons {check : Check} (hpass : check.Passes) (h : Follows x checks) :
    Follows x (check :: checks) := by
  intro fault
  rw [h fault, FirstFailing.cons_iff]
  simp [hpass]

theorem single {check : Check} (hok : check.Passes → ∃ a, x = .ok a)
    (herror : ¬ check.Passes → x = .error check.fault) : Follows x [check] := by
  by_cases h : check.Passes
  · obtain ⟨a, rfl⟩ := hok h
    exact cons h (ok a)
  · rw [herror h]
    exact error check h

theorem passes (h : Follows x checks) {a : α} (hx : x = .ok a) :
    ∀ check ∈ checks, check.Passes := by
  refine FirstFailing.forall_passes_iff.2 fun fault hfails => ?_
  rw [(h fault).2 hfails] at hx
  cases hx

/-- What runs after a reader is checked after it. -/
theorem bind (h : Follows x checks) {next : α → Except Fault β}
    (hnext : ∀ a, x = .ok a → Follows (next a) others) :
    Follows (x >>= next) (checks ++ others) := by
  intro fault
  rw [FirstFailing.append_iff, ← h fault]
  cases hx : x with
  | error first =>
    -- what would run next does not, and none of its checks count
    have hfails : ¬ ∀ check ∈ checks, check.Passes := fun hpass =>
      FirstFailing.forall_passes_iff.1 hpass first ((h first).1 hx)
    simp [Bind.bind, Except.bind, hfails]
  | ok a =>
    rw [and_iff_right (h.passes hx), ← hnext a hx fault]
    simp [Bind.bind, Except.bind]

theorem map (h : Follows x checks) (f : α → β) : Follows (x.map f) checks := by
  intro fault
  rw [← h fault]
  cases x <;> simp [Except.map]

end Follows

/-! ## Jobs -/

theorem readName_follows (index : Nat) (field : Option Value) :
    Follows (readName index field) [⟨∃ text, field = some (.str text), nameFault index field⟩] := by
  refine .single (fun h => ?_) fun h => ?_
  · obtain ⟨name, rfl⟩ := h
    exact ⟨name, rfl⟩
  · cases field with
    | none => rfl
    | some v =>
      cases v with
      | str name => exact absurd ⟨name, rfl⟩ h
      | null | bool | num | arr | obj => rfl

theorem readArgs_follows (name : String) (field : Option Value) :
    Follows (readArgs name field) [fieldCheck IsMapping (.badArgs name ·.typeName) field] := by
  refine .single (fun h => ?_) fun h => ?_
  · obtain ⟨args, hargs⟩ := optional_isMapping_iff.1 h
    exact ⟨args, readArgs_eq_ok_iff.2 hargs⟩
  · cases field with
    | none => exact absurd .absent h
    | some v =>
      cases v with
      | null => exact absurd .null h
      | obj args => exact absurd (.present (.intro args)) h
      | bool | num | str | arr => rfl

theorem readKind_follows (name : String) (field : Option Value) :
    Follows (readKind name field) [fieldCheck IsKind (kindFault name) field] := by
  refine .single (fun h => ?_) fun h => ?_
  · obtain ⟨kind, hkind⟩ := optional_isKind_iff.1 h
    exact ⟨kind, readKind_eq_ok_iff.2 hkind⟩
  · cases field with
    | none => exact absurd .absent h
    | some v =>
      cases v with
      | null => exact absurd .null h
      | str text =>
        have hunknown : Text.lowercase text ∉ ["condition", "action", "job", "generic"] :=
          fun hmem => h (.present (.intro hmem))
        simp only [List.mem_cons, List.not_mem_nil, or_false, not_or] at hunknown
        obtain ⟨hcondition, haction, hjob, hgeneric⟩ := hunknown
        simp [readKind, JobKind.ofText, hcondition, haction, hjob, hgeneric, fieldCheck, kindFault]
      | bool | num | arr | obj => rfl

/-- The checks of an item hold exactly when it is a job. -/
theorem jobChecks_pass_iff (index : Nat) (item : Value) :
    (∀ check ∈ jobChecks index item, check.Passes) ↔ IsJob item := by
  rw [jobChecks, List.forall_mem_cons]
  constructor
  · intro h
    obtain ⟨⟨entries⟩, hfields⟩ := h
    simp only [fieldChecks, fieldCheck, List.forall_mem_cons] at hfields
    obtain ⟨⟨name, hname⟩, hargs, hkind, -⟩ := hfields
    exact .intro hname hargs hkind
  · intro h
    obtain ⟨hname, hargs, hkind⟩ := h
    refine ⟨.intro _, ?_⟩
    simp only [fieldChecks, fieldCheck, List.forall_mem_cons]
    exact ⟨⟨_, hname⟩, hargs, hkind, List.forall_mem_nil _⟩

theorem readJob_follows {item : Value} (h : item.Distinct) (implied : Option JobKind)
    (index : Nat) : Follows (readJob implied index item) (jobChecks index item) := by
  cases item with
  | obj entries =>
    rw [readJob_obj ((Value.distinct_obj_iff entries).1 h).1]
    refine .cons (.intro entries) ((readName_follows index _).bind fun name hname => ?_)
    -- the name that was read is the one that later faults tell
    simp only [readName_eq_ok_iff.1 hname, textOf, Option.bind_some, Value.asString?,
      Option.getD_some]
    refine (readArgs_follows name _).bind fun args _ => ?_
    exact (readKind_follows name _).map fun kind : JobKind =>
      (⟨name, implied.getD kind, args⟩ : Job)
  | null | bool | num | str | arr =>
    exact .error ⟨IsMapping _, .notAJob index _⟩ nofun

theorem readJobs_follows {items : List Value} (h : ∀ item ∈ items, item.Distinct)
    (implied : Option JobKind) (index : Nat) :
    Follows (readJobs implied index items) (itemChecks index items) := by
  induction items generalizing index with
  | nil => exact .ok []
  | cons item items ih =>
    obtain ⟨hitem, hitems⟩ := List.forall_mem_cons.1 h
    rw [readJobs, itemChecks, List.zipIdx_cons, List.flatMap_cons]
    refine (readJob_follows hitem implied index).bind fun job _ => ?_
    exact (ih hitems (index + 1)).map (job :: ·)

/-! ## Documents -/

/-- A list, or a mapping with a key of the two lists. -/
inductive HasLists : Value → Prop
  | flat (items : List Value) : HasLists (.arr items)
  | grouped {entries : Object}
    (hkey : "conditions" ∈ Keyed.keys entries ∨ "actions" ∈ Keyed.keys entries) :
    HasLists (.obj entries)

theorem readList_follows (key : String) (field : Option Value) :
    Follows (readList key field) [fieldCheck IsList (.notAList key ·.typeName) field] := by
  refine .single (fun h => ?_) fun h => ?_
  · cases h with
    | absent | null => exact ⟨[], rfl⟩
    | present h =>
      obtain ⟨items⟩ := h
      exact ⟨items, rfl⟩
  · cases field with
    | none => exact absurd .absent h
    | some v =>
      cases v with
      | null => exact absurd .null h
      | arr items => exact absurd (.present (.intro items)) h
      | bool | num | str | obj => rfl

theorem itemsAt_eq {key : String} {field : Option Value} {items : List Value}
    (h : readList key field = .ok items) : itemsAt field = items := by
  obtain ⟨rfl | rfl, rfl⟩ | rfl := readList_eq_ok_iff.1 h
  · rfl
  · rfl
  · rfl

theorem distinct_of_mem_jobLists {v : Value} (h : v.Distinct) {items : List Value}
    (hitems : items ∈ jobLists v) : ∀ item ∈ items, item.Distinct := by
  have hat {field : Option Value} (hfield : ∀ w, field = some w → w.Distinct) :
      ∀ item ∈ itemsAt field, item.Distinct := by
    cases field with
    | none => exact List.forall_mem_nil _
    | some v =>
      cases v with
      | arr items => exact (Value.distinct_arr_iff items).1 (hfield _ rfl)
      | null | bool | num | str | obj => exact List.forall_mem_nil _
  cases v with
  | arr list =>
    rw [List.mem_singleton.1 hitems]
    exact (Value.distinct_arr_iff list).1 h
  | obj entries =>
    obtain rfl | rfl : _ ∨ _ := by simpa [jobLists] using hitems
    · exact hat fun _ => h.of_find?
    · exact hat fun _ => h.of_find?
  | null | bool | num | str => cases hitems

theorem checks_arr (items : List Value) : checks (.arr items) = itemChecks 0 items := by
  simp [checks, listChecks, jobLists]

/-- The checks of a mapping, parted as the reader runs. -/
theorem checks_obj (entries : Object) : checks (.obj entries) =
    [fieldCheck IsList (.notAList "conditions" ·.typeName) (Keyed.find? "conditions" entries)] ++
      ([fieldCheck IsList (.notAList "actions" ·.typeName) (Keyed.find? "actions" entries)] ++
        (itemChecks 0 (itemsAt (Keyed.find? "conditions" entries)) ++
          (itemChecks 0 (itemsAt (Keyed.find? "actions" entries)) ++ []))) := by
  simp [checks, listChecks, ruleKeys, jobLists]

/-- The reader of documents looks at both lists, and then at the jobs of one after the other. -/
theorem ofValue_follows {v : Value} (h : v.Distinct) (hlists : HasLists v) :
    Follows (ofValue v) (checks v) := by
  cases hlists with
  | flat items =>
    rw [checks_arr]
    exact (readJobs_follows (distinct_of_mem_jobLists h (.head _)) none 0).map ofJobs
  | @grouped entries hkey =>
    have hconditionItems := distinct_of_mem_jobLists h (.head _)
    have hactionItems := distinct_of_mem_jobLists h (.tail _ (.head _))
    rw [ofValue, readGrouped_eq ((Value.distinct_obj_iff entries).1 h).1,
      if_neg fun hmissed => (noLists_iff entries).1 hmissed hkey, checks_obj]
    -- both lists are looked at before the jobs of either are read
    refine (readList_follows "conditions" _).bind fun conditions hconditions => ?_
    refine (readList_follows "actions" _).bind fun actions hactions => ?_
    rw [itemsAt_eq hconditions] at hconditionItems ⊢
    rw [itemsAt_eq hactions] at hactionItems ⊢
    refine (readJobs_follows hconditionItems (some .condition) 0).bind fun _ _ => ?_
    refine (readJobs_follows hactionItems (some .action) 0).bind fun _ _ => ?_
    exact .ok _

/-! ## The first fault -/

/-- The item stands in the document behind the lists `earlier` and, in its own list, behind the
items `before`. -/
def StandsBehind (earlier : List (List Value)) (before : List Value) (item v : Value) : Prop :=
  ∃ after later, jobLists v = earlier ++ (before ++ item :: after) :: later

/-- A document that is rejected for a fault in the item behind `earlier` and `before`. -/
structure RejectedAt (diagnose : Diagnosis) (fault : Fault) (earlier : List (List Value))
    (before : List Value) (item v : Value) : Prop where
  stands : StandsBehind earlier before item v
  fails : FirstFailing (jobChecks before.length item) fault
  /-- A position in the text is that of the item in its own list. -/
  position : ∀ index, fault.position? = some index →
    index = before.length ∧ ∃ rest, fault.message = "job #" ++ toString before.length ++ rest
  /-- Every job before the item is read as a document of its own. -/
  parses : ∀ job ∈ earlier.flatten ++ before,
    ∃ parsed, read diagnose (.value (.arr [job])) = .plain (.ok (ofJobs [parsed]))
  /-- Whatever follows the item in the lists, the document is rejected with the same error. -/
  kept : ∀ other w, DocumentOf diagnose other w → (∀ check ∈ listChecks w, check.Passes) →
    StandsBehind earlier before item w →
      read diagnose other = .plain (.error (.invalidInput fault))

theorem itemChecks_pass_iff {index : Nat} {items : List Value} :
    (∀ check ∈ itemChecks index items, check.Passes) ↔ ∀ job ∈ items, IsJob job := by
  induction items generalizing index with
  | nil => exact iff_of_true (List.forall_mem_nil _) (List.forall_mem_nil _)
  | cons item items ih =>
    rw [itemChecks, List.zipIdx_cons, List.flatMap_cons, List.forall_mem_append,
      jobChecks_pass_iff, ← itemChecks, ih, List.forall_mem_cons]

/-- The checks of items fail first at one behind jobs, which is checked under its position. -/
theorem firstFailing_itemChecks_iff {items : List Value} {fault : Fault} :
    FirstFailing (itemChecks 0 items) fault ↔
      ∃ before item after, items = before ++ item :: after ∧ (∀ job ∈ before, IsJob job) ∧
        FirstFailing (jobChecks before.length item) fault := by
  rw [itemChecks, FirstFailing.flatMap_iff]
  constructor
  · intro h
    obtain ⟨_, ⟨item, index⟩, _, heq, hbefore, hfails⟩ := h
    obtain ⟨before, rest, rfl, rfl, hrest⟩ := List.zipIdx_eq_append_iff.1 heq
    obtain ⟨_, after, rfl, hitem, -⟩ := List.zipIdx_eq_cons_iff.1 hrest.symm
    cases hitem
    rw [Nat.zero_add] at hfails
    exact ⟨before, item, after, rfl, itemChecks_pass_iff.1 hbefore, hfails⟩
  · intro h
    obtain ⟨before, item, after, rfl, hbefore, hfails⟩ := h
    refine ⟨before.zipIdx, (item, before.length), after.zipIdx (before.length + 1), ?_,
      itemChecks_pass_iff.2 hbefore, hfails⟩
    rw [List.zipIdx_append, List.zipIdx_cons, Nat.zero_add]

/-- The checks of the jobs of a document fail first at an item behind jobs. -/
theorem firstFailing_jobLists_iff {v : Value} {fault : Fault} :
    FirstFailing ((jobLists v).flatMap (itemChecks 0)) fault ↔
      ∃ earlier before item, StandsBehind earlier before item v ∧
        (∀ job ∈ earlier.flatten ++ before, IsJob job) ∧
        FirstFailing (jobChecks before.length item) fault := by
  have hlists (lists : List (List Value)) : (∀ check ∈ lists.flatMap (itemChecks 0), check.Passes) ↔
      ∀ job ∈ lists.flatten, IsJob job := by
    simp only [List.forall_mem_flatMap, itemChecks_pass_iff, List.forall_mem_flatten]
  rw [FirstFailing.flatMap_iff]
  constructor
  · intro h
    obtain ⟨earlier, items, later, heq, hearlier, hfails⟩ := h
    obtain ⟨before, item, after, rfl, hbefore, hfails⟩ := firstFailing_itemChecks_iff.1 hfails
    exact ⟨earlier, before, item, ⟨after, later, heq⟩,
      List.forall_mem_append.2 ⟨(hlists earlier).1 hearlier, hbefore⟩, hfails⟩
  · intro h
    obtain ⟨earlier, before, item, ⟨after, later, heq⟩, hjobs, hfails⟩ := h
    obtain ⟨hearlier, hbefore⟩ := List.forall_mem_append.1 hjobs
    exact ⟨earlier, before ++ item :: after, later, heq, (hlists earlier).2 hearlier,
      firstFailing_itemChecks_iff.2 ⟨before, item, after, rfl, hbefore, hfails⟩⟩

theorem StandsBehind.hasLists {earlier : List (List Value)} {before : List Value} {item v : Value}
    (h : StandsBehind earlier before item v) : HasLists v := by
  obtain ⟨after, later, hlists⟩ := h
  have hmem : before ++ item :: after ∈ jobLists v := by simp [hlists]
  have hkey {key : String} {entries : Object}
      (hat : before ++ item :: after = itemsAt (Keyed.find? key entries)) :
      key ∈ Keyed.keys entries := by
    rw [← Keyed.find?_isSome_iff]
    cases hfind : Keyed.find? key entries with
    | none => simp [hfind, itemsAt] at hat
    | some => rfl
  cases v with
  | arr items => exact .flat items
  | obj entries =>
    obtain hat | hat : _ ∨ _ := by simpa [jobLists] using hmem
    · exact .grouped (.inl (hkey hat))
    · exact .grouped (.inr (hkey hat))
  | null | bool | num | str => cases hmem

theorem StandsBehind.mem {earlier : List (List Value)} {before : List Value} {item v : Value}
    (h : StandsBehind earlier before item v) {job : Value}
    (hjob : job ∈ earlier.flatten ++ before) : ∃ items ∈ jobLists v, job ∈ items := by
  obtain ⟨after, later, hlists⟩ := h
  rw [hlists]
  obtain hjob | hjob := List.mem_append.1 hjob
  · obtain ⟨items, hitems, hjob⟩ := List.mem_flatten.1 hjob
    exact ⟨items, List.mem_append_left _ hitems, hjob⟩
  · exact ⟨_, List.mem_append_right _ (.head _), List.mem_append_left _ hjob⟩

/-- A job is read as a document of its own. -/
theorem read_single {job : Value} (h : job.Distinct) (hjob : IsJob job) :
    ∃ parsed, read diagnose (.value (.arr [job])) = .plain (.ok (ofJobs [parsed])) := by
  obtain ⟨parsed, hparsed⟩ := (isJob_iff none).1 hjob
  have hdistinct : (Value.arr [job]).Distinct :=
    (Value.distinct_arr_iff _).2 (List.forall_mem_singleton.2 h)
  refine ⟨parsed, ?_⟩
  rw [read, ofDocument, (ofValue_eq_ok_iff hdistinct).2 (.flat (.cons hparsed .nil))]
  rfl

/-- An item checked behind jobs decides the fault, whatever follows it. -/
theorem read_eq_of_standsBehind {input : RuleInput} {v : Value}
    (hinput : DocumentOf diagnose input v) (hlists : ∀ check ∈ listChecks v, check.Passes)
    {earlier : List (List Value)} {before : List Value} {item : Value} (hstands : StandsBehind earlier before item v)
    (hjobs : ∀ job ∈ earlier.flatten ++ before, IsJob job) {fault : Fault}
    (hfails : FirstFailing (jobChecks before.length item) fault) :
    read diagnose input = .plain (.error (.invalidInput fault)) := by
  obtain ⟨hread, hdistinct⟩ := hinput.read_eq
  have hchecks : FirstFailing (checks v) fault := FirstFailing.append_iff.2
    (.inr ⟨hlists, firstFailing_jobLists_iff.2 ⟨earlier, before, item, hstands, hjobs, hfails⟩⟩)
  rw [hread, ofDocument, (ofValue_follows hdistinct hstands.hasLists fault).2 hchecks]
  rfl

/-- The faults of an item that tell a position tell that of the item. -/
theorem position?_eq {index position : Nat} {item : Value} {fault : Fault}
    (h : FirstFailing (jobChecks index item) fault) (hposition : fault.position? = some position) :
    position = index := by
  obtain ⟨check, hcheck, rfl⟩ := h.exists_mem
  obtain rfl | hcheck := List.mem_cons.1 hcheck
  · cases hposition
    rfl
  · cases item with
    | obj entries =>
      simp only [fieldChecks, List.mem_cons, List.not_mem_nil, or_false] at hcheck
      obtain rfl | rfl | rfl := hcheck
      · exact Option.some.inj (hposition.symm.trans (position?_nameFault ..))
      · cases hposition
      · rw [fieldCheck, position?_kindFault] at hposition
        cases hposition
    | null | bool | num | str | arr => cases hcheck

/-- **The first fault is reported.**  A document with lists of jobs that is rejected is rejected
with the fault of the first of its checks that does not hold.  That is a check of its lists, or
one of a job: then all jobs before it are read, and nothing that follows it counts. -/
theorem read_firstFault {input : RuleInput} {v : Value} (hinput : DocumentOf diagnose input v)
    (hlists : HasLists v) {e : Error} (hreject : (read diagnose input).value = .error e) :
    ∃ fault, e = .invalidInput fault ∧ FirstFailing (checks v) fault ∧
      (FirstFailing (listChecks v) fault ∨
        (∀ check ∈ listChecks v, check.Passes) ∧
          ∃ earlier before item, RejectedAt diagnose fault earlier before item v) := by
  obtain ⟨hread, hdistinct⟩ := hinput.read_eq
  cases hv : ofValue v with
  | ok rule =>
    rw [hread, ofDocument, hv] at hreject
    cases hreject
  | error fault =>
    rw [hread, ofDocument, hv] at hreject
    cases hreject
    have hfails := (ofValue_follows hdistinct hlists fault).1 hv
    refine ⟨fault, rfl, hfails, (FirstFailing.append_iff.1 hfails).imp_right fun h => ?_⟩
    obtain ⟨hpass, hjobs⟩ := h
    obtain ⟨earlier, before, item, hstands, hjobs, hitem⟩ := firstFailing_jobLists_iff.1 hjobs
    refine ⟨hpass, earlier, before, item, hstands, hitem, fun index hindex => ?_, ?_, ?_⟩
    · obtain rfl := position?_eq hitem hindex
      exact ⟨rfl, Fault.message_of_position? hindex⟩
    · intro job hjob
      obtain ⟨items, hitems, hmem⟩ := hstands.mem hjob
      exact read_single (distinct_of_mem_jobLists hdistinct hitems job hmem) (hjobs job hjob)
    · intro other w hother hothers hstands'
      exact read_eq_of_standsBehind hother hothers hstands' hjobs hitem

/-- The second of the actions has no name, besides arguments of the wrong type; the third is no
mapping. -/
def faultyDocument : Value :=
  .obj [("actions", .arr [.obj [("name", .str "a")], .obj [("args", .bool true)], .null]),
    ("conditions", .arr [.obj [("name", .str "c"), ("kind", .null)]])]

/-- The name that is missing is told, under its position among the actions. -/
theorem read_firstFault_noName :
    DocumentOf .terse (.value faultyDocument) faultyDocument ∧ HasLists faultyDocument ∧
      (read .terse (.value faultyDocument)).value = .error (.invalidInput (.noName 1)) ∧
      ∃ earlier before item, RejectedAt .terse (.noName 1) earlier before item faultyDocument := by
  have hinput : DocumentOf .terse (.value faultyDocument) faultyDocument := by
    refine .value ?_
    simp [faultyDocument, Value.Distinct, Value.DistinctEntries, Value.DistinctItems]
  have hlists : HasLists faultyDocument := .grouped (.inl (by decide))
  have hreject :
      (read .terse (.value faultyDocument)).value = .error (.invalidInput (.noName 1)) := by rfl
  obtain ⟨fault, hfault, -, hlist | ⟨-, hjob⟩⟩ := read_firstFault hinput hlists hreject
  · -- the faults of the lists are of another sort
    cases hfault
    obtain ⟨check, hcheck, hfault⟩ := hlist.exists_mem
    obtain rfl | rfl : _ ∨ _ := by simpa [listChecks, ruleKeys, faultyDocument] using hcheck
    · cases hfault
    · cases hfault
  · cases hfault
    exact ⟨hinput, hlists, hreject, hjob⟩

end Rule

end RuleEngine
