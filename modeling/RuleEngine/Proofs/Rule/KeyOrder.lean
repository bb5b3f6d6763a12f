import Mathlib.Data.List.Forall2
import RuleEngine.Proofs.Json.RoundTrip
import RuleEngine.Proofs.Rule.Grammar

/-!
# RuleEngine.Proofs.Rule.KeyOrder

A document is read by what stands at the keys of a rule and of its jobs; the order of the keys
does not count, nor what stands at other keys.

1. `Keyed.AlikeAt` compares mappings by their entries at some keys.  What is found at one of
   these keys is then alike (`Keyed.AlikeAt.find?`), as long as no key is there twice.
2. `Alike` relates the documents that differ in no more than this, in the mapping of the rule
   and in those of its jobs; the arguments of a job are compared as they are.
3. The fields of a mapping are found where they are, whatever was taken out before
   (`readJob_obj`, `readGrouped_eq`), so that each part of the reader gives the same result for
   what is alike: the same jobs, or the same fault (`read_alike`).
-/

namespace RuleEngine

/-! ## Mappings -/

namespace Keyed

variable {α : Type} {known : List String} {key : String} {o p : Keyed α}

theorem find?_filter (keep : String → Bool) (key : String) (o : Keyed α) :
    find? key (o.filter (keep ·.1)) = if keep key then find? key o else none := by
  induction o with
  | nil => simp [find?]
  | cons e o ih =>
    obtain ⟨k, v⟩ := e
    by_cases hk : k = key
    · subst hk
      by_cases hkeep : keep k <;> simp [find?, hkeep, ih]
    · by_cases hkeep : keep k <;> simp [find?, hk, hkeep, ih]

/-- The order of the entries does not matter to what is found. -/
theorem find?_perm (h : (keys p).Nodup) (hperm : o.Perm p) (key : String) :
    find? key o = find? key p := by
  have hnodup : (keys o).Nodup := (hperm.map Prod.fst).nodup_iff.2 h
  apply Option.ext
  intro value
  rw [find?_eq_some_iff hnodup, find?_eq_some_iff h, hperm.mem_iff]

/-- The mappings have the same entries at the known keys, up to their order and up to what is
alike. -/
def AlikeAt (known : List String) (alike : α → α → Prop) (o p : Keyed α) : Prop :=
  ∃ entries, List.Forall₂ (fun e f => e.1 = f.1 ∧ alike e.2 f.2) (o.filter (·.1 ∈ known)) entries ∧
    entries.Perm (p.filter (·.1 ∈ known))

variable {alike : α → α → Prop}

theorem find?_forall₂ {entries : Keyed α}
    (h : List.Forall₂ (fun e f => e.1 = f.1 ∧ alike e.2 f.2) o entries) (key : String) :
    Option.Rel alike (find? key o) (find? key entries) := by
  induction h with
  | nil => exact .none
  | @cons e f _ _ h _ ih =>
    obtain ⟨k, v⟩ := e
    obtain ⟨k', w⟩ := f
    obtain ⟨rfl, hvw⟩ := h
    rw [find?, find?]
    split
    · exact .some hvw
    · exact ih

/-- What is found at a known key is alike. -/
theorem AlikeAt.find? (h : AlikeAt known alike o p) (hp : (keys p).Nodup) (hkey : key ∈ known) :
    Option.Rel alike (find? key o) (find? key p) := by
  obtain ⟨entries, hentries, hperm⟩ := h
  have hnodup : (keys (p.filter (·.1 ∈ known))).Nodup := hp.sublist (List.filter_sublist.map _)
  have hfound := find?_forall₂ hentries key
  have hknown (o : Keyed α) : Keyed.find? key (o.filter (·.1 ∈ known)) = Keyed.find? key o := by
    rw [find?_filter (decide <| · ∈ known), decide_eq_true hkey, if_pos rfl]
  rwa [find?_perm hnodup hperm, hknown, hknown] at hfound

theorem isSome_eq_of_rel {a b : Option α} (h : Option.Rel alike a b) : a.isSome = b.isSome := by
  cases h <;> rfl

theorem eq_of_rel {a b : Option α} (h : Option.Rel Eq a b) : a = b := by
  cases h with
  | none => rfl
  | some h => rw [h]

end Keyed

/-! ## Documents -/

namespace Rule

variable {diagnose : Diagnosis}

/-- The keys of a job. -/
def jobKeys : List String := ["name", "args", "arguments", "kind", "job_type"]

/-- The keys of a rule. -/
def ruleKeys : List String := ["conditions", "actions"]

/-- The two lists, with the kinds that they imply. -/
def impliedKinds : List (String × JobKind) := [("conditions", .condition), ("actions", .action)]

/-- Items that are equal, or mappings with the same entries at the keys of a job. -/
inductive AlikeJobs : Value → Value → Prop
  | refl (v : Value) : AlikeJobs v v
  | mapping {entries others : Object} (h : Keyed.AlikeAt jobKeys Eq entries others) :
    AlikeJobs (.obj entries) (.obj others)

/-- Fields that are equal, or lists of as many items that are alike one by one. -/
inductive AlikeLists : Value → Value → Prop
  | refl (v : Value) : AlikeLists v v
  | items {items others : List Value} (h : List.Forall₂ AlikeJobs items others) :
    AlikeLists (.arr items) (.arr others)

/-- Documents that differ at most in the order of the keys of the rule and of its jobs, and in
what stands at other keys. -/
inductive Alike : Value → Value → Prop
  | refl (v : Value) : Alike v v
  | flat {items others : List Value} (h : List.Forall₂ AlikeJobs items others) :
    Alike (.arr items) (.arr others)
  | grouped {entries others : Object} (h : Keyed.AlikeAt ruleKeys AlikeLists entries others) :
    Alike (.obj entries) (.obj others)

/-- The document of an input: a value, in which no key is there twice, or what a text says. -/
inductive DocumentOf (diagnose : Diagnosis) : RuleInput → Value → Prop
  | value {v : Value} (h : v.Distinct) : DocumentOf diagnose (.value v) v
  | text {text : String} {v : Value} (h : decodeText diagnose text = .ok v) :
    DocumentOf diagnose (.text text) v

/-! ## Reading -/

/-- Items that are alike are read alike. -/
theorem readJob_alike {v w : Value} (h : AlikeJobs v w) (hv : v.Distinct) (hw : w.Distinct)
    (implied : Option JobKind) (index : Nat) :
    readJob implied index v = readJob implied index w := by
  cases h with
  | refl => rfl
  | @mapping entries others h =>
    have hentries := ((Value.distinct_obj_iff entries).1 hv).1
    have hothers := ((Value.distinct_obj_iff others).1 hw).1
    have hfield (key : String) (hkey : key ∈ jobKeys) :
        Keyed.find? key entries = Keyed.find? key others := Keyed.eq_of_rel (h.find? hothers hkey)
    have hname := hfield "name" (by decide)
    have hargs : either "args" "arguments" entries = either "args" "arguments" others := by
      rw [either, either, hfield "args" (by decide), hfield "arguments" (by decide)]
    have hkind : either "kind" "job_type" entries = either "kind" "job_type" others := by
      rw [either, either, hfield "kind" (by decide), hfield "job_type" (by decide)]
    rw [readJob_obj hentries, readJob_obj hothers, hname, hargs, hkind]

/-- So are the items of two lists, from the same position on. -/
theorem readJobs_alike {items others : List Value} (h : List.Forall₂ AlikeJobs items others)
    (hitems : ∀ item ∈ items, item.Distinct) (hothers : ∀ item ∈ others, item.Distinct)
    (implied : Option JobKind) (index : Nat) :
    readJobs implied index items = readJobs implied index others := by
  induction h generalizing index with
  | nil => rfl
  | cons h _ ih =>
    obtain ⟨hitem, hitems⟩ := List.forall_mem_cons.1 hitems
    obtain ⟨hother, hothers⟩ := List.forall_mem_cons.1 hothers
    rw [readJobs, readJobs, readJob_alike h hitem hother, ih hitems hothers]

/-- Fields that are alike have the same fault, or hold lists whose jobs are read alike. -/
theorem readList_alike {field other : Option Value} (h : Option.Rel AlikeLists field other)
    (hfield : ∀ v, field = some v → v.Distinct) (hother : ∀ v, other = some v → v.Distinct)
    (key : String) (implied : Option JobKind) :
    (readList key field).map (readJobs implied 0) =
      (readList key other).map (readJobs implied 0) := by
  cases h with
  | none => rfl
  | @some v w h =>
    cases h with
    | refl => rfl
    | @items items others h =>
      have hitems := (Value.distinct_arr_iff items).1 (hfield _ rfl)
      have hothers := (Value.distinct_arr_iff others).1 (hother _ rfl)
      rw [readList, readList, Except.map, Except.map, readJobs_alike h hitems hothers]

/-- A mapping is read by which of the two lists are there, and by what their fields read as. -/
theorem readGrouped_congr {entries others : Object} (hentries : (Keyed.keys entries).Nodup)
    (hothers : (Keyed.keys others).Nodup)
    (hhas : ∀ key ∈ ruleKeys, Keyed.has key entries = Keyed.has key others)
    (hlist : ∀ key kind, (key, kind) ∈ impliedKinds →
      (readList key (Keyed.find? key entries)).map (readJobs (some kind) 0) =
        (readList key (Keyed.find? key others)).map (readJobs (some kind) 0)) :
    readGrouped entries = readGrouped others := by
  have hconditions := hlist "conditions" .condition (.head _)
  have hactions := hlist "actions" .action (.tail _ (.head _))
  rw [readGrouped_eq hentries, readGrouped_eq hothers, hhas "conditions" (by decide),
    hhas "actions" (by decide)]
  -- the jobs are read after both lists were looked at, from what stands in these
  have hlists (x y : Except Fault (List Value)) : (do
      let conditions ← x
      let actions ← y
      let conditions ← readJobs (some .condition) 0 conditions
      let actions ← readJobs (some .action) 0 actions
      .ok ⟨conditions ++ actions, .grouped⟩ : Except Fault Rule) = (do
      let conditions ← x.map (readJobs (some .condition) 0)
      let actions ← y.map (readJobs (some .action) 0)
      let conditions ← conditions
      let actions ← actions
      .ok ⟨conditions ++ actions, .grouped⟩) := by
    cases x <;> cases y <;> rfl
  split
  · rfl
  · exact (hlists ..).trans (hconditions ▸ hactions ▸ (hlists ..).symm)

/-- Mappings that are alike at the keys of a rule are read alike. -/
theorem readGrouped_alike {entries others : Object}
    (h : Keyed.AlikeAt ruleKeys AlikeLists entries others) (hentries : (Value.obj entries).Distinct)
    (hothers : (Value.obj others).Distinct) : readGrouped entries = readGrouped others := by
  have hnodup := ((Value.distinct_obj_iff entries).1 hentries).1
  have hnodup' := ((Value.distinct_obj_iff others).1 hothers).1
  refine readGrouped_congr hnodup hnodup' (fun key hkey => ?_) fun key kind hkey => ?_
  · exact Keyed.isSome_eq_of_rel (h.find? hnodup' hkey)
  · have hkey : key ∈ ruleKeys := List.mem_map_of_mem (f := Prod.fst) hkey
    exact readList_alike (h.find? hnodup' hkey) (fun _ => hentries.of_find?)
      (fun _ => hothers.of_find?) key _

/-- Documents that are alike are read alike. -/
theorem ofValue_alike {v w : Value} (h : Alike v w) (hv : v.Distinct) (hw : w.Distinct) :
    ofValue v = ofValue w := by
  cases h with
  | refl => rfl
  | @flat items others h =>
    have hitems := (Value.distinct_arr_iff items).1 hv
    have hothers := (Value.distinct_arr_iff others).1 hw
    rw [ofValue, ofValue, readJobs_alike h hitems hothers]
  | grouped h => exact readGrouped_alike h hv hw

/-- The document of an input is what is read. -/
theorem DocumentOf.read_eq {input : RuleInput} {v : Value} (h : DocumentOf diagnose input v) :
    read diagnose input = .plain (ofDocument v) ∧ v.Distinct := by
  cases h with
  | value h => exact ⟨rfl, h⟩
  | text h =>
    refine ⟨?_, decodeText_distinct h⟩
    rw [read, h]

/-- **The order of keys does not count, nor do foreign keys.**  Inputs whose documents are alike
are read with the same result: the same rule, or the same error. -/
theorem read_alike {input other : RuleInput} {v w : Value} (hinput : DocumentOf diagnose input v)
    (hother : DocumentOf diagnose other w) (h : Alike v w) :
    read diagnose input = read diagnose other := by
  obtain ⟨hread, hv⟩ := hinput.read_eq
  obtain ⟨hread', hw⟩ := hother.read_eq
  rw [hread, hread', ofDocument, ofDocument, ofValue_alike h hv hw]

/-- The job of `sampleDocument` with its keys in another order and another foreign key. -/
def reorderedJob : Value :=
  .obj [("kind", .str "Generic"), ("id", .bool false),
    ("arguments", .obj [("b", .null), ("a", .bool true)]), ("name", .str "notify")]

/-- The document `sampleDocument` with its lists in the other order and another foreign key. -/
def reorderedDocument : Value :=
  .obj [("conditions", .null), ("id", .str "r1"), ("actions", .arr [reorderedJob])]

theorem alike_reorderedDocument : Alike sampleDocument reorderedDocument := by
  have hjob : AlikeJobs (.obj [("name", .str "notify"), ("arguments", .obj [("b", .null),
      ("a", .bool true)]), ("note", .null), ("kind", .str "Generic")]) reorderedJob := by
    refine .mapping ⟨[("name", .str "notify"), ("arguments", .obj [("b", .null),
      ("a", .bool true)]), ("kind", .str "Generic")], ?_, (List.reverse_perm _).symm⟩
    simp [jobKeys]
  refine .grouped ⟨[("actions", .arr [reorderedJob]), ("conditions", .null)], ?_, .swap ..⟩
  exact .cons ⟨rfl, .items (.cons hjob .nil)⟩ (.cons ⟨rfl, .refl _⟩ .nil)

/-- A value and a text that are read as the same rule, and two values with the same fault in a
job. -/
theorem read_alike_reordered :
    let text := Json.text reorderedDocument
    let faulty : Value := .arr [.obj [("kind", .null), ("name", .str "x"), ("args", .bool true)]]
    let other : Value := .arr [.obj [("args", .bool true), ("name", .str "x"), ("kind", .null)]]
    DocumentOf .terse (.value sampleDocument) sampleDocument ∧
      DocumentOf .terse (.text text) reorderedDocument ∧ Alike sampleDocument reorderedDocument ∧
      read .terse (.value sampleDocument) = read .terse (.text text) ∧
      (read .terse (.value faulty)).value = .error (.invalidInput (.badArgs "x" "boolean")) ∧
      read .terse (.value faulty) = read .terse (.value other) := by
  intro text faulty other
  have hsample : DocumentOf .terse (.value sampleDocument) sampleDocument := by
    refine .value ?_
    simp [sampleDocument, Value.Distinct, Value.DistinctEntries, Value.DistinctItems]
  have htext : DocumentOf .terse (.text text) reorderedDocument := by
    have hdistinct : reorderedDocument.Distinct := by
      simp [reorderedDocument, reorderedJob, Value.Distinct, Value.DistinctEntries,
        Value.DistinctItems]
    have hnumbers : reorderedDocument.numbers = [] := by
      simp [reorderedDocument, reorderedJob, Value.numbers, Value.numbersOfEntries,
        Value.numbersOfItems]
    have hread : Json.read? text = some reorderedDocument := by
      refine Json.read?_chars hdistinct (by decide) ?_
      rw [hnumbers]
      exact List.forall_mem_nil _
    refine .text ?_
    rw [decodeText, hread]
  have hfaulty : DocumentOf .terse (.value faulty) faulty := by
    refine .value ?_
    simp [faulty, Value.Distinct, Value.DistinctEntries, Value.DistinctItems]
  have hother : DocumentOf .terse (.value other) other := by
    refine .value ?_
    simp [other, Value.Distinct, Value.DistinctEntries, Value.DistinctItems]
  have halike : Alike faulty other := by
    refine .flat (.cons (.mapping ?_) .nil)
    exact ⟨_, List.forall₂_same.2 fun _ _ => ⟨rfl, rfl⟩, (List.reverse_perm _).symm⟩
  exact ⟨hsample, htext, alike_reorderedDocument,
    read_alike hsample htext alike_reorderedDocument, by rfl, read_alike hfaulty hother halike⟩

end Rule

end RuleEngine
