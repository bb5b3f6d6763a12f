import Mathlib.Data.Set.Card
import RuleEngine.Session

/-!
# RuleEngine.Proofs.Session.FiniteMap

A session is a finite map from keys to values after any operations on it.

1. A `Write` sets a key, takes one out, assigns to one that is there, or records a result.
   `write` performs one of them and `writeAll` one after the other.
2. `LastWritten` says from the operations what there is at a key: the value that was written
   to it last, unless it was taken out since.  `get?_write` says what one operation does to
   look-ups, `lastWritten_concat_self` and `lastWritten_concat_of_ne` what it does to
   `LastWritten`; induction over the operations puts them together (`get?_writeAll_iff`).
3. `Performs` says what an operation hands out and where it leaves the entries; `performs_write`
   follows the places of the entries, which distinct keys make unique.
4. The results grow by the recorded entries while nothing else is done at their key
   (`results_writeAll`).
-/

namespace RuleEngine

/-- Where a list with a last item is split at an item, this is the last one, or the last one
stands behind it. -/
theorem concat_eq_append_cons {α : Type} {xs before after : List α} {x y : α}
    (h : xs ++ [x] = before ++ y :: after) :
    (before = xs ∧ y = x ∧ after = []) ∨ ∃ rest, after = rest ++ [x] ∧ xs = before ++ y :: rest := by
  obtain rfl | ⟨rest, last, rfl⟩ := List.eq_nil_or_concat after
  · obtain ⟨rfl, hitem⟩ := List.append_inj' h rfl
    exact .inl ⟨rfl, (List.singleton_inj.1 hitem).symm, rfl⟩
  · rw [List.concat_eq_append, ← List.cons_append, ← List.append_assoc] at h
    obtain ⟨rfl, hitem⟩ := List.append_inj' h rfl
    rw [List.concat_eq_append, ← hitem]
    exact .inr ⟨rest, rfl, rfl⟩

/-! ## Places in a keyed list -/

namespace Keyed

variable {α : Type} {key : String} {front : Keyed α}

/-- What is found stands in the first entry of its key. -/
theorem exists_split_of_find? {value : α} {o : Keyed α} (h : find? key o = some value) :
    ∃ front back, o = front ++ (key, value) :: back ∧ key ∉ keys front := by
  induction o with
  | nil => cases h
  | cons e o ih =>
    obtain ⟨k, v⟩ := e
    rw [find?] at h
    split at h
    · next hk =>
      cases hk
      cases h
      exact ⟨[], o, rfl, List.not_mem_nil⟩
    · next hk =>
      obtain ⟨front, back, rfl, hfront⟩ := ih h
      refine ⟨(k, v) :: front, back, rfl, fun hmem => ?_⟩
      obtain heq | hmem := List.mem_cons.1 hmem
      · exact hk heq.symm
      · exact hfront hmem

theorem set_append_cons (hfront : key ∉ keys front) (old value : α) (back : Keyed α) :
    set key value (front ++ (key, old) :: back) = front ++ (key, value) :: back := by
  induction front with
  | nil => simp [set]
  | cons e front ih =>
    obtain ⟨hne, hfront⟩ := not_or.1 (mt List.mem_cons.2 hfront)
    rw [List.cons_append, set, if_neg (Ne.symm hne), ih hfront, List.cons_append]

theorem replaceBy_append_cons (hfront : key ∉ keys front) (old : α) (last : String × α)
    (back : Keyed α) : replaceBy key last (front ++ (key, old) :: back) = front ++ last :: back := by
  induction front with
  | nil => simp [replaceBy]
  | cons e front ih =>
    obtain ⟨hne, hfront⟩ := not_or.1 (mt List.mem_cons.2 hfront)
    rw [List.cons_append, replaceBy, if_neg (Ne.symm hne), ih hfront, List.cons_append]

theorem remove_of_notMem {o : Keyed α} (h : key ∉ keys o) : remove key o = o := by
  obtain rfl | ⟨init, last, rfl⟩ := List.eq_nil_or_concat o
  · rfl
  · have hlast : last.1 ≠ key := fun heq => h (heq ▸ mem_keys_of_mem (by simp))
    have hhas : ¬ has key (init.concat last) = true := mt (find?_isSome_iff ..).1 h
    rw [List.concat_eq_append] at hhas ⊢
    rw [remove, List.getLast?_concat]
    simp only [if_neg hlast, if_neg hhas]

/-- The last entry is just taken off. -/
theorem remove_concat (front : Keyed α) (old : α) : remove key (front ++ [(key, old)]) = front := by
  simp [remove]

/-- The last entry takes the place of the one that is removed. -/
theorem remove_append_cons (hfront : key ∉ keys front) {last : String × α} (hlast : last.1 ≠ key)
    (old : α) (middle : Keyed α) :
    remove key (front ++ (key, old) :: (middle ++ [last])) = front ++ last :: middle := by
  have hassoc : front ++ (key, old) :: (middle ++ [last]) =
      (front ++ (key, old) :: middle) ++ [last] := by simp
  have hhas : has key (front ++ (key, old) :: (middle ++ [last])) = true := by
    rw [has, find?_isSome_iff]
    exact mem_keys_of_mem (e := (key, old)) (by simp)
  rw [hassoc] at hhas ⊢
  rw [remove, List.getLast?_concat]
  simp only [if_neg hlast, if_pos hhas, List.dropLast_concat]
  exact replaceBy_append_cons hfront old last middle

end Keyed

namespace Session

/-! ## Operations -/

/-- The sessions that there are at first: that of a mapping, and that of entries which are set
one after the other. -/
inductive Initial : Session → Prop
  | ofMapping {entries : Object} (distinct : (Keyed.keys entries).Nodup) : Initial ⟨entries⟩
  | ofEntries (entries : List (String × Value)) : Initial (ofEntries entries)

/-- An operation that writes to a session. -/
inductive Write where
  /-- Sets a key. -/
  | insert (key : String) (value : Value)
  /-- Takes a key out. -/
  | remove (key : String)
  /-- Assigns to a key, if it is there. -/
  | assign (key : String) (value : Value)
  /-- Records a result. -/
  | record (job : String) (result : Value)

/-- Performs an operation: the value that it hands out, and the session after. -/
def write (s : Session) : Write → Option Value × Session
  | .insert key value => s.exchange key value
  | .remove key => s.take key
  | .assign key value => (none, s.update key value)
  | .record job result => (none, (s.record job result).value)

/-- Performs operations one after the other. -/
def writeAll (s : Session) (ops : List Write) : Session := ops.foldl (fun s op => (s.write op).2) s

namespace Write

/-- The key that an operation is on. -/
def key : Write → String
  | .insert key _ | .remove key | .assign key _ => key
  | .record .. => resultsKey

/-- The value that an operation on a session leaves at its key, if it leaves one there. -/
def value? (s : Session) : Write → Option Value
  | .insert _ value => some value
  | .remove _ => none
  | .assign key value => if s.has key then some value else none
  | .record job result =>
    some (.arr (s.results ++ [.obj [("job", .str job), ("return", result)]]))

/-- The entry that an operation adds to the results, if it records one. -/
def recordedEntry : Write → Option Value
  | .record job result => some (.obj [("job", .str job), ("return", result)])
  | .insert .. | .remove _ | .assign .. => none

end Write

/-- After operations there is a value at a key: it was there at first, or an operation wrote
it, and there was no operation on the key since. -/
inductive LastWritten (s : Session) (ops : List Write) (key : String) (value : Value) : Prop
  | given (found : s.get? key = some value) (kept : ∀ op ∈ ops, op.key ≠ key)
  | written {before after : List Write} {op : Write} (ops_eq : ops = before ++ op :: after)
    (on : op.key = key) (wrote : op.value? (s.writeAll before) = some value)
    (kept : ∀ op ∈ after, op.key ≠ key)

/-- What an operation on a session hands out, and the entries that it leaves, each in its
place. -/
inductive Performs (s : Session) : Write → Option Value → Session → Prop
  /-- A key that is there keeps its place, as all other entries do. -/
  | replaced {front back : Object} {key : String} {old : Value} (value : Value)
    (found : s.entries = front ++ (key, old) :: back) :
    Performs s (.insert key value) (some old) ⟨front ++ (key, value) :: back⟩
  /-- A new key comes last. -/
  | appended {key : String} (value : Value) (absent : key ∉ s.keys) :
    Performs s (.insert key value) none ⟨s.entries ++ [(key, value)]⟩
  /-- Assigning to a key that is there moves nothing either. -/
  | assigned {front back : Object} {key : String} {old : Value} (value : Value)
    (found : s.entries = front ++ (key, old) :: back) :
    Performs s (.assign key value) none ⟨front ++ (key, value) :: back⟩
  | unassigned {key : String} (value : Value) (absent : key ∉ s.keys) :
    Performs s (.assign key value) none s
  /-- The last entry moves into the place of the one that is taken out, and no other moves. -/
  | taken {front middle : Object} {last : String × Value} {key : String} {old : Value}
    (found : s.entries = front ++ (key, old) :: (middle ++ [last])) :
    Performs s (.remove key) (some old) ⟨front ++ last :: middle⟩
  /-- Nothing moves when the last entry is the one that is taken out. -/
  | takenLast {front : Object} {key : String} {old : Value}
    (found : s.entries = front ++ [(key, old)]) : Performs s (.remove key) (some old) ⟨front⟩
  | untaken {key : String} (absent : key ∉ s.keys) : Performs s (.remove key) none s
  /-- Recording is setting the key of the results. -/
  | recorded {job : String} {result : Value} {old : Option Value} {t : Session}
    (set : Performs s (.insert resultsKey
      (.arr (s.results ++ [.obj [("job", .str job), ("return", result)]]))) old t) :
    Performs s (.record job result) none t

/-! ## One operation -/

theorem Initial.nodup {s : Session} (h : s.Initial) : s.keys.Nodup := by
  cases h with
  | ofMapping distinct => exact distinct
  | ofEntries entries => exact Keyed.nodup_keys_ofEntries entries

section

variable {s : Session}

theorem has_iff_mem_keys (s : Session) (key : String) : s.has key = true ↔ key ∈ s.keys :=
  Keyed.find?_isSome_iff key s.entries

theorem get?_eq_none_iff (s : Session) (key : String) : s.get? key = none ↔ key ∉ s.keys := by
  rw [← has_iff_mem_keys, has, Keyed.has, Option.not_isSome_iff_eq_none, get?]

theorem update_of_mem {key : String} (h : key ∈ s.keys) (value : Value) :
    s.update key value = s.insert key value :=
  if_pos ((s.has_iff_mem_keys key).2 h)

theorem update_of_notMem {key : String} (h : key ∉ s.keys) (value : Value) :
    s.update key value = s :=
  if_neg (mt (s.has_iff_mem_keys key).1 h)

theorem nodup_write (h : s.keys.Nodup) (op : Write) : (s.write op).2.keys.Nodup := by
  cases op with
  | insert key value => exact Keyed.nodup_keys_set h
  | remove key => exact Keyed.nodup_keys_remove h
  | assign key value =>
    by_cases hkey : key ∈ s.keys
    · simp only [write, update_of_mem hkey]
      exact Keyed.nodup_keys_set h
    · simpa only [write, update_of_notMem hkey] using h
  | record job result =>
    simp only [write, record_eq_insert]
    exact Keyed.nodup_keys_set h

/-- An operation decides what there is at its key, and leaves all other keys alone. -/
theorem get?_write (h : s.keys.Nodup) (op : Write) (key : String) :
    (s.write op).2.get? key = if key = op.key then op.value? s else s.get? key := by
  cases op with
  | insert k value => exact get?_insert ..
  | remove k => exact Keyed.find?_remove h key
  | assign k value =>
    by_cases hk : k ∈ s.keys
    · simp only [write, update_of_mem hk, get?_insert, Write.key, Write.value?,
        if_pos ((s.has_iff_mem_keys k).2 hk)]
    · have habsent : s.get? k = none := (get?_eq_none_iff s k).2 hk
      simp only [write, update_of_notMem hk, Write.key, Write.value?,
        if_neg (mt (s.has_iff_mem_keys k).1 hk)]
      split
      · next heq => rw [heq, habsent]
      · rfl
  | record job result =>
    rw [write, record_eq_insert]
    exact get?_insert ..

/-- Setting a key that is there changes its entry in place. -/
theorem exists_insert_eq {key : String} {old : Value} (h : s.get? key = some old)
    (value : Value) :
    ∃ front back, s.entries = front ++ (key, old) :: back ∧
      s.insert key value = ⟨front ++ (key, value) :: back⟩ := by
  obtain ⟨front, back, hentries, hfront⟩ := Keyed.exists_split_of_find? h
  refine ⟨front, back, hentries, ?_⟩
  rw [insert, hentries, Keyed.set_append_cons hfront]

theorem performs_insert (s : Session) (key : String) (value : Value) :
    Performs s (.insert key value) (s.get? key) (s.insert key value) := by
  cases hfind : s.get? key with
  | none =>
    have habsent : key ∉ s.keys := (get?_eq_none_iff s key).1 hfind
    rw [insert, Keyed.set_of_notMem habsent]
    exact .appended value habsent
  | some old =>
    obtain ⟨front, back, hentries, hinsert⟩ := exists_insert_eq hfind value
    rw [hinsert]
    exact .replaced value hentries

theorem performs_assign (s : Session) (key : String) (value : Value) :
    Performs s (.assign key value) none (s.update key value) := by
  cases hfind : s.get? key with
  | none =>
    have habsent : key ∉ s.keys := (get?_eq_none_iff s key).1 hfind
    rw [update_of_notMem habsent]
    exact .unassigned value habsent
  | some old =>
    have hmem : key ∈ s.keys := by
      by_contra habsent
      simp [(get?_eq_none_iff s key).2 habsent] at hfind
    obtain ⟨front, back, hentries, hinsert⟩ := exists_insert_eq hfind value
    rw [update_of_mem hmem, hinsert]
    exact .assigned value hentries

theorem performs_remove (h : s.keys.Nodup) (key : String) :
    Performs s (.remove key) (s.get? key) (s.remove key) := by
  cases hfind : s.get? key with
  | none =>
    have habsent : key ∉ s.keys := (get?_eq_none_iff s key).1 hfind
    rw [remove, Keyed.remove_of_notMem habsent]
    exact .untaken habsent
  | some old =>
    obtain ⟨front, back, hentries, hfront⟩ := Keyed.exists_split_of_find? hfind
    obtain rfl | ⟨middle, last, rfl⟩ := List.eq_nil_or_concat back
    · rw [remove, hentries, Keyed.remove_concat]
      exact .takenLast hentries
    · rw [List.concat_eq_append] at hentries
      -- the entry that moves is another one, as the keys are distinct
      have hlast : last.1 ≠ key := by
        rintro rfl
        simp [keys, Keyed.keys, hentries, List.nodup_append] at h
      rw [remove, hentries, Keyed.remove_append_cons hfront hlast]
      exact .taken hentries

theorem performs_write (h : s.keys.Nodup) (op : Write) :
    Performs s op (s.write op).1 (s.write op).2 := by
  cases op with
  | insert key value => exact performs_insert s key value
  | remove key => exact performs_remove h key
  | assign key value => exact performs_assign s key value
  | record job result =>
    simp only [write, record_eq_insert]
    exact .recorded (performs_insert s ..)

/-- The results depend on what there is at their key alone. -/
theorem results_congr {t : Session} (h : s.get? resultsKey = t.get? resultsKey) :
    s.results = t.results := by
  rw [results, results, h]

/-- An operation that records adds its entry to the results, and one on another key leaves
them alone. -/
theorem results_write (h : s.keys.Nodup) {op : Write}
    (hop : op.key = resultsKey → op.recordedEntry.isSome) :
    (s.write op).2.results = s.results ++ op.recordedEntry.toList := by
  have hother (hkey : op.key ≠ resultsKey) : (s.write op).2.results = s.results :=
    results_congr (by rw [get?_write h, if_neg (Ne.symm hkey)])
  cases op with
  | record job result => exact results_record s job result
  | insert | remove | assign =>
    rw [hother fun hkey => by simpa [Write.recordedEntry] using hop hkey]
    simp [Write.recordedEntry]

end

/-! ## Operations one after the other -/

variable {s : Session} {ops : List Write} {key : String} {value : Value}

@[simp] theorem writeAll_nil (s : Session) : s.writeAll [] = s := rfl

theorem writeAll_cons (s : Session) (op : Write) (ops : List Write) :
    s.writeAll (op :: ops) = (s.write op).2.writeAll ops := rfl

theorem writeAll_concat (s : Session) (ops : List Write) (op : Write) :
    s.writeAll (ops ++ [op]) = ((s.writeAll ops).write op).2 := by
  simp [writeAll]

theorem nodup_writeAll (h : s.keys.Nodup) (ops : List Write) : (s.writeAll ops).keys.Nodup := by
  induction ops generalizing s with
  | nil => exact h
  | cons op ops ih => exact ih (nodup_write h op)

theorem lastWritten_nil : LastWritten s [] key value ↔ s.get? key = some value := by
  constructor
  · rintro (⟨found, -⟩ | ⟨ops_eq, -, -, -⟩)
    · exact found
    · simp at ops_eq
  · exact fun found => .given found nofun

/-- The last operation on a key decides what is last written to it. -/
theorem lastWritten_concat_self {op : Write} (hkey : op.key = key) :
    LastWritten s (ops ++ [op]) key value ↔ op.value? (s.writeAll ops) = some value := by
  constructor
  · rintro (⟨-, kept⟩ | ⟨ops_eq, -, wrote, kept⟩)
    · exact absurd hkey (kept op (by simp))
    · obtain ⟨rfl, rfl, rfl⟩ | ⟨rest, rfl, rfl⟩ := concat_eq_append_cons ops_eq
      · exact wrote
      · exact absurd hkey (kept op (by simp))
  · exact fun wrote => .written rfl hkey wrote nofun

/-- An operation on another key decides nothing. -/
theorem lastWritten_concat_of_ne {op : Write} (hkey : op.key ≠ key) :
    LastWritten s (ops ++ [op]) key value ↔ LastWritten s ops key value := by
  have hkept {others : List Write} :
      (∀ other ∈ others ++ [op], other.key ≠ key) ↔ ∀ other ∈ others, other.key ≠ key := by
    rw [List.forall_mem_append, List.forall_mem_singleton, and_iff_left hkey]
  constructor
  · rintro (⟨found, kept⟩ | ⟨ops_eq, on, wrote, kept⟩)
    · exact .given found (hkept.1 kept)
    · obtain ⟨rfl, rfl, rfl⟩ | ⟨rest, rfl, rfl⟩ := concat_eq_append_cons ops_eq
      · exact absurd on hkey
      · exact .written rfl on wrote (hkept.1 kept)
  · rintro (⟨found, kept⟩ | ⟨rfl, on, wrote, kept⟩)
    · exact .given found (hkept.2 kept)
    · exact .written (by simp) on wrote (hkept.2 kept)

/-- There is at a key what was last written to it. -/
theorem get?_writeAll_iff (h : s.keys.Nodup) (ops : List Write) (key : String) (value : Value) :
    (s.writeAll ops).get? key = some value ↔ LastWritten s ops key value := by
  induction ops using List.reverseRecOn with
  | nil => exact lastWritten_nil.symm
  | append_singleton ops op ih =>
    rw [writeAll_concat, get?_write (nodup_writeAll h ops)]
    split
    · next hkey => exact (lastWritten_concat_self hkey.symm).symm
    · next hkey => exact ih.trans (lastWritten_concat_of_ne (Ne.symm hkey)).symm

/-- The results grow by what is recorded, when nothing else is done at their key. -/
theorem results_writeAll (h : s.keys.Nodup)
    (hops : ∀ op ∈ ops, op.key = resultsKey → op.recordedEntry.isSome) :
    (s.writeAll ops).results = s.results ++ ops.filterMap Write.recordedEntry := by
  induction ops generalizing s with
  | nil => simp
  | cons op ops ih =>
    obtain ⟨hop, hops⟩ := List.forall_mem_cons.1 hops
    rw [writeAll_cons, ih (nodup_write h op) hops, results_write h hop, List.append_assoc]
    cases hentry : op.recordedEntry <;> simp [hentry]

/-! ## The map -/

/-- The keys that are live after operations: a value was written to them, and they were not
taken out since. -/
def liveKeys (s : Session) (ops : List Write) : Set String :=
  {key | ∃ value, LastWritten s ops key value}

theorem mem_liveKeys_iff : key ∈ s.liveKeys ops ↔ ∃ value, LastWritten s ops key value := Iff.rfl

theorem mem_keys_writeAll_iff (h : s.keys.Nodup) (ops : List Write) (key : String) :
    key ∈ (s.writeAll ops).keys ↔ key ∈ s.liveKeys ops := by
  have hsome : key ∈ (s.writeAll ops).keys ↔ ∃ value, (s.writeAll ops).get? key = some value := by
    rw [← Option.isSome_iff_exists]
    exact (Keyed.find?_isSome_iff ..).symm
  simp only [hsome, get?_writeAll_iff h, mem_liveKeys_iff]

theorem size_writeAll (h : s.keys.Nodup) (ops : List Write) :
    (s.writeAll ops).size = (s.liveKeys ops).ncard := by
  have hlive : s.liveKeys ops = ↑(s.writeAll ops).keys.toFinset := by
    ext key
    rw [← mem_keys_writeAll_iff h, Finset.mem_coe, List.mem_toFinset]
  rw [hlive, Set.ncard_coe_finset, List.toFinset_card_of_nodup (nodup_writeAll h ops), keys,
    Keyed.keys, List.length_map, size]

/-- What a session is after operations, whatever comes next. -/
structure FiniteMap (s : Session) (ops : List Write) (t : Session) : Prop where
  nodup : t.keys.Nodup
  /-- There is at a key what was last written to it. -/
  found : ∀ key value, t.get? key = some value ↔ LastWritten s ops key value
  has : ∀ key, t.has key = true ↔ key ∈ s.liveKeys ops
  size : t.size = (s.liveKeys ops).ncard
  /-- Setting a key and taking it out hand out what was found there. -/
  handed : ∀ key, (t.write (.remove key)).1 = t.get? key ∧
    ∀ value, (t.write (.insert key value)).1 = t.get? key
  /-- An operation leaves the entries in their places, but for the last one when it is to fill
  a place. -/
  next : ∀ op, Performs t op (t.write op).1 (t.write op).2
  /-- The results grow by what is recorded, when nothing else is done at their key. -/
  results : ∀ others : List Write,
    (∀ op ∈ others, op.key = resultsKey → op.recordedEntry.isSome) →
      (t.writeAll others).results = t.results ++ others.filterMap Write.recordedEntry

/-- **Sessions are finite maps.**  Whatever operations were performed on a session, its keys are
distinct, at each key there is what was last written to it and not taken out since, and each
further operation keeps the places of the entries, but that the last entry fills the place of
one that is taken out. -/
theorem writeAll_finiteMap {s : Session} (hs : s.Initial) (ops : List Write) :
    FiniteMap s ops (s.writeAll ops) where
  nodup := nodup_writeAll hs.nodup ops
  found := get?_writeAll_iff hs.nodup ops
  has key := (has_iff_mem_keys ..).trans (mem_keys_writeAll_iff hs.nodup ops key)
  size := size_writeAll hs.nodup ops
  handed _ := ⟨rfl, fun _ => rfl⟩
  next := performs_write (nodup_writeAll hs.nodup ops)
  results _ := results_writeAll (nodup_writeAll hs.nodup ops)

/-- The last entry moves to the front, results that were no list start anew, and assigning to a
key that is gone does nothing. -/
theorem writeAll_finiteMap_movedEntry :
    let s : Session := ⟨[("a", .null), ("results", .str "none"), ("b", .bool true), ("c", .null)]⟩
    let ops : List Write := [.record "f" .null, .remove "a", .assign "c" (.str "x")]
    let others : List Write := [.assign "a" .null, .record "g" (.bool true), .remove "b"]
    let t := s.writeAll ops
    s.Initial ∧ t.keys = ["c", "results", "b"] ∧ LastWritten s ops "c" (.str "x") ∧
      (s.liveKeys ops).ncard = 3 ∧
      (∀ op ∈ others, op.key = resultsKey → op.recordedEntry.isSome) ∧
      (t.writeAll others).get? "results" =
        some (.arr [.obj [("job", .str "f"), ("return", .null)],
          .obj [("job", .str "g"), ("return", .bool true)]]) ∧
      (t.writeAll others).results =
        [.obj [("job", .str "f"), ("return", .null)],
          .obj [("job", .str "g"), ("return", .bool true)]] := by
  intro s ops others t
  have hs : s.Initial := .ofMapping (by decide)
  have hmap : FiniteMap s ops t := writeAll_finiteMap hs ops
  have hothers : ∀ op ∈ others, op.key = resultsKey → op.recordedEntry.isSome := by decide
  exact ⟨hs, by rfl, (hmap.found "c" _).1 (by rfl), hmap.size.symm, hothers, by rfl,
    hmap.results others hothers⟩

end Session

end RuleEngine
