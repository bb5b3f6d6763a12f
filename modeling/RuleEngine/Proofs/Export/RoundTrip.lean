import RuleEngine.Export
import RuleEngine.Proofs.Json.RoundTrip

/-!
# RuleEngine.Proofs.Export.RoundTrip

The JSON text of an export is read as the structured export.

1. `Json.Legible` — what a value needs for its text to restore it, whatever it is nested
   in: no object with a key twice, and numbers that are read back.  Lists and objects are
   legible when their members are.
2. `legible_structured` — the metadata of a registry are legible when its defaults are:
   names, labels, documentation, types and choices are strings, and all objects are made
   by setting one key after the other.
3. `read_json` puts this together with the reader of JSON.
-/

namespace RuleEngine

namespace Value

theorem mem_numbersOfItems {n : Number} {vs : List Value} :
    n ∈ numbersOfItems vs ↔ ∃ v ∈ vs, n ∈ v.numbers := by
  induction vs with
  | nil => simp [numbersOfItems]
  | cons v vs ih => simp [numbersOfItems, ih]

theorem mem_numbersOfEntries {n : Number} {es : List (String × Value)} :
    n ∈ numbersOfEntries es ↔ ∃ e ∈ es, n ∈ e.2.numbers := by
  induction es with
  | nil => simp [numbersOfEntries]
  | cons e es ih => simp [numbersOfEntries, ih]

end Value

/-! ## Legible values -/

namespace Json

/-- A value that its text restores, unless it nests too deep. -/
structure Legible (v : Value) : Prop where
  /-- No object in it has a key twice. -/
  distinct : v.Distinct
  /-- The texts of its numbers are read back. -/
  numbers : ∀ n ∈ v.numbers, ReadsBack n

namespace Legible

theorem null : Legible .null := ⟨trivial, by simp [Value.numbers]⟩

theorem str (s : String) : Legible (.str s) := ⟨trivial, by simp [Value.numbers]⟩

theorem arr {items : List Value} (h : ∀ v ∈ items, Legible v) : Legible (.arr items) where
  distinct := (Value.distinct_arr_iff items).2 fun v hv => (h v hv).distinct
  numbers n hn := by
    obtain ⟨v, hv, hn⟩ := Value.mem_numbersOfItems.1 hn
    exact (h v hv).numbers n hn

theorem obj {entries : Object} (hkeys : (Keyed.keys entries).Nodup)
    (h : ∀ e ∈ entries, Legible e.2) : Legible (.obj entries) where
  distinct := (Value.distinct_obj_iff entries).2 ⟨hkeys, fun e he => (h e he).distinct⟩
  numbers n hn := by
    obtain ⟨e, he, hn⟩ := Value.mem_numbersOfEntries.1 hn
    exact (h e he).numbers n hn

theorem obj_ofEntries {entries : List (String × Value)} (h : ∀ e ∈ entries, Legible e.2) :
    Legible (.obj (Keyed.ofEntries entries)) :=
  obj (Keyed.nodup_keys_ofEntries entries) fun e he => h e (Keyed.mem_ofEntries he)

theorem ofStrings (ss : List String) : Legible (.ofStrings ss) := by
  refine arr fun v hv => ?_
  obtain ⟨s, -, rfl⟩ := List.mem_map.1 hv
  exact .str s

theorem ofString? (s : Option String) : Legible (.ofString? s) := by
  cases s with
  | none => exact .null
  | some s => exact .str s

/-- Integers are read back in any case, so that only the doubles of a value count. -/
theorem of_doubles {v : Value} (hdistinct : v.Distinct)
    (hdoubles : ∀ x finite, Number.float x finite ∈ v.numbers →
      readNumber (Decimal.Layout.json.write x) = some (.float x finite, [])) : Legible v where
  distinct := hdistinct
  numbers n hn := by
    cases n with
    | int n inRange => exact readNumber_integerText inRange
    | float x finite => exact hdoubles x finite hn

theorem read?_text {v : Value} (h : Legible v) (hdepth : v.depth ≤ maxDepth) :
    read? (text v) = some v :=
  read?_chars h.distinct hdepth h.numbers

end Legible

end Json

/-! ## Metadata -/

/-- The defaults of all parameters of the callables. -/
def Registry.defaults (r : Registry) : List Value :=
  r.toList.flatMap fun c => c.function.params.filterMap Param.default

namespace Export

open Json (Legible)

theorem legible_ofParam {p : Param} (h : ∀ v, p.default = some v → Legible v) :
    Legible (ofParam p) := by
  have hdefault : Legible (p.default.getD .null) := by
    cases hp : p.default with
    | none => exact .null
    | some v => exact h v hp
  refine .obj (by simp [Keyed.keys]) ?_
  simp only [List.forall_mem_cons]
  refine ⟨hdefault, .str _, ?_, List.forall_mem_nil _⟩
  cases p.type.choices with
  | none => exact .null
  | some choices => exact .ofStrings choices

theorem legible_ofCallable {c : Callable}
    (h : ∀ v ∈ c.function.params.filterMap Param.default, Legible v) : Legible (ofCallable c) := by
  have hargs : Legible
      (.obj (Keyed.ofEntries (c.function.params.map fun p => (p.name, ofParam p)))) := by
    refine .obj_ofEntries fun e he => ?_
    obtain ⟨p, hp, rfl⟩ := List.mem_map.1 he
    exact legible_ofParam fun v hv => h v (List.mem_filterMap.2 ⟨p, hp, hv⟩)
  refine .obj (by simp [Keyed.keys]) ?_
  simpa using ⟨hargs, .ofString? _, .str _⟩

variable {r : Registry}

theorem legible_ofCallables (h : ∀ v ∈ r.defaults, Legible v) {cs : List Callable}
    (hcs : ∀ c ∈ cs, c ∈ r.toList) : Legible (ofCallables cs) := by
  refine .obj_ofEntries fun e he => ?_
  obtain ⟨c, hc, rfl⟩ := List.mem_map.1 he
  exact legible_ofCallable fun v hv => h v (List.mem_flatMap.2 ⟨c, hcs c hc, hv⟩)

theorem legible_grouped (h : ∀ v ∈ r.defaults, Legible v) : Legible (grouped r) := by
  have hgroup (kind : JobKind) : Legible (ofCallables (group r kind)) :=
    legible_ofCallables h fun c hc => (List.mem_filter.1 hc).1
  rw [grouped]
  split
  · refine .obj (by simp [Keyed.keys, JobKind.name]) ?_
    simpa using ⟨hgroup .condition, hgroup .action⟩
  · refine .obj (by simp [Keyed.keys, JobKind.name]) ?_
    simpa using ⟨hgroup .condition, hgroup .action, hgroup .job⟩

/-- The metadata of a registry are legible when its defaults are. -/
theorem legible_structured (byKind : Bool) (h : ∀ v ∈ r.defaults, Legible v) :
    Legible (structured byKind r) := by
  cases byKind with
  | false => exact legible_ofCallables h fun c hc => hc
  | true => exact legible_grouped h

/-! ## The text of an export -/

/-- **The JSON export says what the structured export says.**  Grouped or flat, the text is
read as that very value, with all groups, callables and parameters in their order.  Of the
doubles in defaults it is assumed that their text is read back. -/
theorem read_json (byKind : Bool) (r : Registry) (hdistinct : ∀ v ∈ r.defaults, v.Distinct)
    (hdoubles : ∀ v ∈ r.defaults, ∀ x finite, Number.float x finite ∈ v.numbers →
      Json.readNumber (Decimal.Layout.json.write x) = some (.float x finite, []))
    (hdepth : (structured byKind r).depth ≤ 127) :
    ∃ v text, ofRegistry byKind .dict r = .value v ∧ ofRegistry byKind .json r = .text text ∧
      Json.read? text = some v := by
  have hlegible : Legible (structured byKind r) :=
    legible_structured byKind fun v hv => .of_doubles (hdistinct v hv) (hdoubles v hv)
  exact ⟨structured byKind r, _, rfl, rfl, hlegible.read?_text hdepth⟩

/-- Two callables whose metadata need escapes: one with defaults that hold a double, the
least integer and nested objects, and with a parameter that is declared twice, and one
that has neither parameters nor documentation. -/
theorem read_json_escapedDefaults :
    let handler : Handler := fun s _ => ⟨.ok .null, s, []⟩
    let tenth : Value := .num (.float (.ofBits 0x3FB999999999999A) (by decide))
    let nested : Value := .obj [("z", .arr [.null, .obj []]), ("a\n", tenth)]
    let least : Value := .num (.int (-9223372036854775808) (by decide))
    let r : Registry :=
      (Registry.empty.insertAll
        [("sp\u0001lit", ⟨some "\"Split\" \\ é😀", .job, "split",
            [⟨"by", .enumeration "Color" ["red", "\t"], some nested⟩, ⟨"at", .integer, none⟩,
              ⟨"by", .named "\"", some least⟩], some "Splits.\nThen joins.", handler⟩),
          ("", ⟨none, .action, "none", [], none, handler⟩)]).value
    ((∀ v ∈ r.defaults, v.Distinct) ∧
      (∀ v ∈ r.defaults, ∀ x finite, Number.float x finite ∈ v.numbers →
        Json.readNumber (Decimal.Layout.json.write x) = some (.float x finite, [])) ∧
      (structured true r).depth ≤ 127) ∧
      ∃ v text, ofRegistry true .dict r = .value v ∧ ofRegistry true .json r = .text text ∧
        Json.read? text = some v := by
  intro handler tenth nested least r
  have hdefaults : r.defaults = [nested, least] := by rfl
  have hdistinct : ∀ v ∈ r.defaults, v.Distinct := by
    simp [hdefaults, nested, tenth, least, Value.Distinct, Value.DistinctEntries,
      Value.DistinctItems]
  have hdoubles : ∀ v ∈ r.defaults, ∀ x finite, Number.float x finite ∈ v.numbers →
      Json.readNumber (Decimal.Layout.json.write x) = some (.float x finite, []) := by
    intro v hv x finite hx
    rw [hdefaults] at hv
    obtain rfl | rfl : v = nested ∨ v = least := by simpa using hv
    · obtain rfl : x = .ofBits 0x3FB999999999999A := by
        simpa [nested, tenth, Value.numbers, Value.numbersOfEntries, Value.numbersOfItems] using hx
      rfl
    · simp [least, Value.numbers] at hx
  have hdepth : (structured true r).depth ≤ 127 := by decide
  exact ⟨⟨hdistinct, hdoubles, hdepth⟩, read_json true r hdistinct hdoubles hdepth⟩

end Export

end RuleEngine
