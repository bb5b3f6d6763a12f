import RuleEngine.Rule.Input

/-!
# RuleEngine.Proofs.Distinct

No object inside a document that is read from a text has a key twice: both
readers set the entries of an object one after the other.

* `Json.read?_distinct` — by induction over the fuel of the reader;
* `Yaml.read?_distinct` — by recursion over the content of the document;
* `Rule.decodeText_distinct` — for a text of either format.
-/

namespace RuleEngine

namespace Keyed

variable {α : Type}

theorem mem_set {key : String} {value : α} {o : Keyed α} {e : String × α}
    (h : e ∈ set key value o) : e = (key, value) ∨ e ∈ o := by
  induction o with
  | nil => exact .inl (List.mem_singleton.1 h)
  | cons first rest ih =>
    obtain ⟨k, v⟩ := first
    rw [set] at h
    split at h
    · next hk =>
      obtain he | hrest := List.mem_cons.1 h
      · exact .inl (hk ▸ he)
      · exact .inr (.tail _ hrest)
    · obtain he | hrest := List.mem_cons.1 h
      · exact .inr (he ▸ .head _)
      · exact (ih hrest).imp id (.tail _)

theorem mem_foldl_set {entries : List (String × α)} {o : Keyed α} {e : String × α}
    (h : e ∈ entries.foldl (fun o e => set e.1 e.2 o) o) : e ∈ o ∨ e ∈ entries := by
  induction entries generalizing o with
  | nil => exact .inl h
  | cons first entries ih =>
    obtain hset | hrest := ih h
    · obtain rfl | ho := mem_set hset
      · exact .inr (.head _)
      · exact .inl ho
    · exact .inr (.tail _ hrest)

theorem mem_ofEntries {entries : List (String × α)} {e : String × α} (h : e ∈ ofEntries entries) :
    e ∈ entries :=
  (mem_foldl_set h).resolve_left List.not_mem_nil

end Keyed

namespace Value

theorem distinctItems_iff (vs : List Value) : DistinctItems vs ↔ ∀ v ∈ vs, v.Distinct := by
  induction vs with
  | nil => simp [DistinctItems]
  | cons v vs ih => simp [DistinctItems, ih]

theorem distinctEntries_iff (es : List (String × Value)) :
    DistinctEntries es ↔ ∀ e ∈ es, e.2.Distinct := by
  induction es with
  | nil => simp [DistinctEntries]
  | cons e es ih => simp [DistinctEntries, ih]

theorem distinct_arr_iff (items : List Value) : (arr items).Distinct ↔ ∀ v ∈ items, v.Distinct := by
  rw [Distinct, distinctItems_iff]

theorem distinct_obj_iff (entries : Object) :
    (obj entries).Distinct ↔ (Keyed.keys entries).Nodup ∧ ∀ e ∈ entries, e.2.Distinct := by
  rw [Distinct, distinctEntries_iff, Keyed.keys]

theorem Distinct.of_find? {entries : Object} {key : String} {v : Value}
    (h : (obj entries).Distinct) (hv : Keyed.find? key entries = some v) : v.Distinct := by
  obtain ⟨hnodup, hentries⟩ := (distinct_obj_iff entries).1 h
  exact hentries _ ((Keyed.find?_eq_some_iff hnodup).1 hv)

theorem distinct_obj_ofEntries {entries : List (String × Value)}
    (h : ∀ e ∈ entries, e.2.Distinct) : (obj (Keyed.ofEntries entries)).Distinct := by
  rw [distinct_obj_iff]
  exact ⟨Keyed.nodup_keys_ofEntries entries, fun e he => h e (Keyed.mem_ofEntries he)⟩

end Value

/-! ## JSON -/

namespace Json

/-- What the three readers of values promise with some fuel. -/
structure ReadsDistinct (fuel : Nat) : Prop where
  value : ∀ {depth cs v rest}, readValue fuel depth cs = some (v, rest) → v.Distinct
  items : ∀ {depth cs vs rest}, readItems fuel depth cs = some (vs, rest) → ∀ v ∈ vs, v.Distinct
  entries : ∀ {depth cs es rest},
    readEntries fuel depth cs = some (es, rest) → ∀ e ∈ es, e.2.Distinct

namespace ReadsDistinct

variable {fuel depth : Nat} {cs rest : List Char}

theorem readValue_succ (ih : ReadsDistinct fuel) {v : Value}
    (h : readValue (fuel + 1) depth cs = some (v, rest)) : v.Distinct := by
  rw [readValue] at h
  split at h
  · cases h
    trivial
  · cases h
    trivial
  · cases h
    trivial
  · obtain ⟨⟨chars, rest'⟩, -, h⟩ := Option.bind_eq_some_iff.1 h
    cases h
    trivial
  · split at h
    · cases h
    · split at h
      · cases h
        trivial
      · obtain ⟨⟨items, rest'⟩, hitems, h⟩ := Option.bind_eq_some_iff.1 h
        cases h
        exact (Value.distinct_arr_iff items).2 (ih.items hitems)
  · split at h
    · cases h
    · split at h
      · cases h
        exact (Value.distinct_obj_iff []).2 ⟨.nil, nofun⟩
      · obtain ⟨⟨entries, rest'⟩, hentries, h⟩ := Option.bind_eq_some_iff.1 h
        cases h
        exact Value.distinct_obj_ofEntries (ih.entries hentries)
  · obtain ⟨⟨n, rest'⟩, -, h⟩ := Option.map_eq_some_iff.1 h
    cases h
    trivial

theorem readItems_succ (ih : ReadsDistinct fuel) {vs : List Value}
    (h : readItems (fuel + 1) depth cs = some (vs, rest)) : ∀ v ∈ vs, v.Distinct := by
  rw [readItems] at h
  obtain ⟨⟨v, cs'⟩, hv, h⟩ := Option.bind_eq_some_iff.1 h
  simp only at h
  split at h
  · cases h
    exact List.forall_mem_singleton.2 (ih.value hv)
  · obtain ⟨⟨vs', rest'⟩, hvs, h⟩ := Option.bind_eq_some_iff.1 h
    cases h
    exact List.forall_mem_cons.2 ⟨ih.value hv, ih.items hvs⟩
  · cases h

theorem readEntries_succ (ih : ReadsDistinct fuel) {es : List (String × Value)}
    (h : readEntries (fuel + 1) depth cs = some (es, rest)) : ∀ e ∈ es, e.2.Distinct := by
  rw [readEntries] at h
  split at h
  · obtain ⟨⟨key, cs₁⟩, -, h⟩ := Option.bind_eq_some_iff.1 h
    obtain ⟨cs₂, -, h⟩ := Option.bind_eq_some_iff.1 h
    obtain ⟨⟨v, cs₃⟩, hv, h⟩ := Option.bind_eq_some_iff.1 h
    simp only at h
    split at h
    · cases h
      exact List.forall_mem_singleton.2 (ih.value hv)
    · obtain ⟨⟨es', rest'⟩, hes, h⟩ := Option.bind_eq_some_iff.1 h
      cases h
      exact List.forall_mem_cons.2 ⟨ih.value hv, ih.entries hes⟩
    · cases h
  · cases h

end ReadsDistinct

theorem readsDistinct (fuel : Nat) : ReadsDistinct fuel := by
  induction fuel with
  | zero =>
    constructor
    · intro depth cs v rest h
      simp [readValue] at h
    · intro depth cs vs rest h
      simp [readItems] at h
    · intro depth cs es rest h
      simp [readEntries] at h
  | succ fuel ih => exact ⟨ih.readValue_succ, ih.readItems_succ, ih.readEntries_succ⟩

theorem read?_distinct {text : String} {v : Value} (h : read? text = some v) : v.Distinct := by
  rw [read?] at h
  split at h
  · next hv =>
    split at h
    · cases h
      exact (readsDistinct _).value hv
    · cases h
  · cases h

end Json

/-! ## YAML -/

namespace Yaml

theorem Scalar.toValue?_distinct {s : Scalar} {v : Value} (h : s.toValue? = some v) :
    v.Distinct := by
  cases s with
  | null => cases h; trivial
  | bool b => cases h; trivial
  | int n =>
    obtain ⟨number, -, rfl⟩ := Option.map_eq_some_iff.1 h
    trivial
  | float x =>
    rw [toValue?] at h
    split at h <;> cases h <;> trivial
  | str s => cases h; trivial

namespace Tree

mutual
theorem toValue?_distinct {v : Value} : (t : Tree) → t.toValue? = some v → v.Distinct
  | .scalar _, h => by
    rw [toValue?] at h
    exact Scalar.toValue?_distinct h
  | .sequence items, h => by
    rw [toValue?] at h
    obtain ⟨vs, hvs, rfl⟩ := Option.map_eq_some_iff.1 h
    exact (Value.distinct_arr_iff vs).2 (toItems?_distinct items hvs)
  | .mapping entries, h => by
    rw [toValue?] at h
    obtain ⟨es, hes, rfl⟩ := Option.map_eq_some_iff.1 h
    exact Value.distinct_obj_ofEntries (toEntries?_distinct entries hes)

theorem toItems?_distinct {vs : List Value} :
    (ts : List Tree) → toItems? ts = some vs → ∀ v ∈ vs, v.Distinct
  | [], h => by
    cases h
    exact nofun
  | t :: ts, h => by
    rw [toItems?] at h
    obtain ⟨v, hv, h⟩ := Option.bind_eq_some_iff.1 h
    obtain ⟨vs', hvs, h⟩ := Option.bind_eq_some_iff.1 h
    cases h
    exact List.forall_mem_cons.2 ⟨toValue?_distinct t hv, toItems?_distinct ts hvs⟩

theorem toEntries?_distinct {es : List (String × Value)} :
    (ts : List (String × Tree)) → toEntries? ts = some es → ∀ e ∈ es, e.2.Distinct
  | [], h => by
    cases h
    exact nofun
  | (k, t) :: ts, h => by
    rw [toEntries?] at h
    obtain ⟨v, hv, h⟩ := Option.bind_eq_some_iff.1 h
    obtain ⟨es', hes, h⟩ := Option.bind_eq_some_iff.1 h
    cases h
    exact List.forall_mem_cons.2 ⟨toValue?_distinct t hv, toEntries?_distinct ts hes⟩
end

end Tree

theorem read?_distinct {text : String} {v : Value} (h : read? text = some v) : v.Distinct := by
  rw [read?] at h
  obtain ⟨d, -, h⟩ := Option.bind_eq_some_iff.1 h
  obtain ⟨tree, -, h⟩ := Option.bind_eq_some_iff.1 h
  exact tree.toValue?_distinct h

end Yaml

/-! ## Rules -/

/-- **The document of a text repeats no key.** -/
theorem Rule.decodeText_distinct {diagnose : Diagnosis} {text : String} {v : Value}
    (h : decodeText diagnose text = .ok v) : v.Distinct := by
  rw [decodeText] at h
  split at h
  · next hv =>
    cases h
    exact Json.read?_distinct hv
  · split at h
    · next hv =>
      cases h
      exact Yaml.read?_distinct hv
    · cases h

end RuleEngine
