import RuleEngine.Notice

/-!
# RuleEngine.Session

The session that all jobs of a run share: entries under text keys.  The engine
owns the key `results`, a list with one `{job, return}` entry for every job
that returned; everything else belongs to the handlers and the caller.
-/

namespace RuleEngine

/-- A session. -/
structure Session where
  entries : Object
deriving DecidableEq

namespace Session

/-- The session without entries. -/
def empty : Session := ⟨[]⟩

instance : Inhabited Session := ⟨empty⟩

/-- The key of the recorded results. -/
def resultsKey : String := "results"

/-! ## Entries -/

/-- The value at a key. -/
def get? (s : Session) (key : String) : Option Value := Keyed.find? key s.entries

/-- Whether a key is present. -/
def has (s : Session) (key : String) : Bool := Keyed.has key s.entries

/-- The keys, in order. -/
def keys (s : Session) : List String := Keyed.keys s.entries

/-- The number of keys. -/
def size (s : Session) : Nat := s.entries.length

/-- Sets a key. -/
def insert (s : Session) (key : String) (value : Value) : Session :=
  ⟨Keyed.set key value s.entries⟩

/-- Sets a key that is present, and nothing else. -/
def update (s : Session) (key : String) (value : Value) : Session :=
  if s.has key then s.insert key value else s

/-- Removes a key; the last entry takes its position. -/
def remove (s : Session) (key : String) : Session := ⟨Keyed.remove key s.entries⟩

/-- Sets a key: the value that it had, and the session after. -/
def exchange (s : Session) (key : String) (value : Value) : Option Value × Session :=
  (s.get? key, s.insert key value)

/-- Takes a key out: the value that it had, and the session after. -/
def take (s : Session) (key : String) : Option Value × Session :=
  let (value, entries) := Keyed.take key s.entries
  (value, ⟨entries⟩)

/-- The session as a value. -/
def toValue (s : Session) : Value := .obj s.entries

/-- The session with the given entries, set one after the other. -/
def ofEntries (entries : List (String × Value)) : Session := ⟨Keyed.ofEntries entries⟩

/-! ## Results -/

/-- The recorded results, none when the key is absent or holds no list. -/
def results (s : Session) : List Value :=
  match s.get? resultsKey with
  | some (.arr items) => items
  | _ => []

/-- The entry that records a result. -/
def resultEntry (job : String) (result : Value) : Value :=
  .obj [("job", .str job), ("return", result)]

/-- Records a result at the end of the list.  A value under the key that is no
list is replaced by a new list, which is told. -/
def record (s : Session) (job : String) (result : Value) : Noted Session :=
  let entry := resultEntry job result
  match s.get? resultsKey with
  | some (.arr items) => .plain (s.insert resultsKey (.arr (items ++ [entry])))
  | some other => ⟨s.insert resultsKey (.arr [entry]), [.resultsReset other]⟩
  | none => .plain (s.insert resultsKey (.arr [entry]))

/-! ## Laws -/

@[simp] theorem get?_insert (s : Session) (key : String) (value : Value) (k : String) :
    (s.insert key value).get? k = if k = key then some value else s.get? k :=
  Keyed.find?_set key value s.entries k

/-- Recording sets the key of the results to the list that is one entry longer. -/
theorem record_eq_insert (s : Session) (job : String) (result : Value) :
    (s.record job result).value =
      s.insert resultsKey
        (.arr (s.results ++ [.obj [("job", .str job), ("return", result)]])) := by
  simp only [record, results, resultEntry]
  cases h : s.get? resultsKey with
  | none => rfl
  | some v => cases v <;> rfl

theorem results_record (s : Session) (job : String) (result : Value) :
    (s.record job result).value.results =
      s.results ++ [.obj [("job", .str job), ("return", result)]] := by
  rw [record_eq_insert]
  simp only [results, get?_insert, if_true]

theorem get?_record {s : Session} {job : String} {result : Value} {k : String}
    (h : k ≠ resultsKey) : (s.record job result).value.get? k = s.get? k := by
  simp only [record]
  split <;> simp [Noted.plain, h]

end Session

end RuleEngine
