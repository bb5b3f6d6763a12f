import RuleEngine.Proofs.Engine.Insertions
import RuleEngine.Proofs.Export.Defaults
import RuleEngine.Proofs.Json.RoundTrip

/-!
# RuleEngine.Proofs.Export.Groups

The two ways of exporting a registry, flat and grouped by kind, carry the same entries.

1. Every callable has the name that it is found under, and no name is there twice
   (`Registry.Refines`).  So the metadata of callables are one entry for each of them, under
   its name, and nothing is overwritten (`ofCallables_eq`).
2. What is found under a name is what was registered last (`get?_insertAll`), also its kind.
   The group of a kind therefore holds the entries of the flat export whose names were last
   registered as that kind (`ofCallables_group`).
3. `performAll_exports` says what this comes to for an engine with any history.
-/

namespace RuleEngine

theorem Keyed.find?_mapValues {α β : Type} (f : α → β) (key : String) (o : Keyed α) :
    Keyed.find? key (o.map fun e => (e.1, f e.2)) = (Keyed.find? key o).map f := by
  induction o with
  | nil => rfl
  | cons e o ih =>
    rw [List.map_cons, Keyed.find?, Keyed.find?, ih]
    split <;> rfl

/-! ## Registrations -/

/-- The callable that was registered last under a name. -/
def lastRegistered (log : List (String × Descriptor)) (name : String) : Option Callable :=
  (Keyed.find? name log.reverse).map fun d => ⟨name, d.label.getD name, d.kind, d.function⟩

/-- Under a name stands the callable that was registered last. -/
theorem Registry.get?_insertAll (log : List (String × Descriptor)) (name : String) :
    (Registry.empty.insertAll log).value.get? name = lastRegistered log name := by
  induction log using List.reverseRecOn with
  | nil => rfl
  | append_singleton log entry ih =>
    obtain ⟨key, d⟩ := entry
    have hlast : (Registry.empty.insertAll (log ++ [(key, d)])).value.get? name =
        ((Registry.empty.insertAll log).value.insert key d).value.get? name := by
      rw [Registry.insertAll_append]
      rfl
    rw [hlast, Registry.get?_insert, ih, lastRegistered, lastRegistered, List.reverse_concat,
      Keyed.find?]
    by_cases h : name = key
    · subst h
      simp
    · rw [if_neg h, if_neg (Ne.symm h)]

namespace Export

/-! ## Entries -/

/-- The entries of callables under their names. -/
def entriesFor (callables : Keyed Callable) : Object :=
  callables.map fun e => (e.1, ofCallable e.2)

/-- The entries of an export whose names were last registered as a kind. -/
def ofKind (log : List (String × Descriptor)) (kind : JobKind) (entries : Object) : Object :=
  entries.filter fun e => (lastRegistered log e.1).map Callable.kind = some kind

theorem keys_entriesFor (callables : Keyed Callable) :
    Keyed.keys (entriesFor callables) = Keyed.keys callables := by
  simp [entriesFor, Keyed.keys]

/-- Callables that have the names they stand under, each once, are one entry each. -/
theorem ofCallables_eq {callables : Keyed Callable} (hnodup : (Keyed.keys callables).Nodup)
    (hname : ∀ e ∈ callables, e.2.name = e.1) :
    ofCallables (Keyed.values callables) = .obj (entriesFor callables) := by
  have hentries : (Keyed.values callables).map (fun c => (c.name, ofCallable c)) =
      entriesFor callables := by
    rw [Keyed.values, List.map_map, entriesFor]
    refine List.map_congr_left fun e he => ?_
    rw [Function.comp_apply, hname e he]
  rw [ofCallables, hentries, Keyed.ofEntries_of_nodup (by rwa [keys_entriesFor])]

variable {r : Registry} {log : List (String × Descriptor)}

theorem group_eq (r : Registry) (kind : JobKind) :
    group r kind = Keyed.values (r.callables.filter fun e => e.2.kind = kind) := by
  rw [group, Registry.toList, Keyed.values, List.filter_map]
  rfl

/-- The group of a kind holds the entries of the flat export that were last registered as this
kind. -/
theorem ofCallables_group (h : r.Refines log)
    (hlast : ∀ name, r.get? name = lastRegistered log name) (kind : JobKind) :
    ofCallables (group r kind) = .obj (ofKind log kind (entriesFor r.callables)) := by
  have hnodup : (Keyed.keys r.callables).Nodup := h.nodup
  have hfilter : ofKind log kind (entriesFor r.callables) =
      entriesFor (r.callables.filter fun e => e.2.kind = kind) := by
    rw [ofKind, entriesFor, List.filter_map, entriesFor]
    congr 1
    refine List.filter_congr fun e he => ?_
    have hfound : lastRegistered log e.1 = some e.2 :=
      (hlast e.1).symm.trans ((Keyed.find?_eq_some_iff hnodup).2 he)
    simp [hfound]
  rw [group_eq, hfilter]
  exact ofCallables_eq (hnodup.sublist (List.filter_sublist.map _))
    fun e he => h.ownName e (List.mem_filter.1 he).1

/-! ## Groups -/

/-- The kinds that have a group in a grouped export. -/
def groupKinds (r : Registry) : List JobKind :=
  [.condition, .action] ++ if (group r .job).isEmpty then [] else [.job]

theorem grouped_eq (h : r.Refines log) (hlast : ∀ name, r.get? name = lastRegistered log name) :
    grouped r = .obj ((groupKinds r).map fun kind =>
      (kind.name, .obj (ofKind log kind (entriesFor r.callables)))) := by
  simp only [grouped, groupKinds, ofCallables_group h hlast]
  split <;> rfl

theorem nodup_groupKinds (r : Registry) : (groupKinds r).Nodup := by
  rw [groupKinds]
  split <;> decide

/-- Conditions and actions are among them in any case, other jobs when there are any. -/
theorem mem_groupKinds_iff (kind : JobKind) :
    kind ∈ groupKinds r ↔ kind ≠ .job ∨ ∃ c ∈ r.toList, c.kind = .job := by
  have hgroup : (group r .job).isEmpty = true ↔ ¬ ∃ c ∈ r.toList, c.kind = .job := by
    simp [group]
  rw [groupKinds]
  split
  · next hempty => cases kind <;> simp [hgroup.1 hempty]
  · next hjobs =>
    have hjob : ∃ c ∈ r.toList, c.kind = .job := not_not.1 (mt hgroup.2 hjobs)
    cases kind <;> simp [hjob]

theorem name_injective : Function.Injective JobKind.name := by
  intro kind other h
  cases kind <;> cases other <;> first | rfl | exact absurd h (by decide)

/-! ## Agreement -/

/-- The flat and the grouped export of a registry that was made by the insertions of a log. -/
structure SameEntries (log : List (String × Descriptor)) (entries groups : Object) : Prop where
  /-- The flat export has one entry for each name, in the order of first registration. -/
  names : Keyed.keys entries = (log.map Prod.fst).eraseDups
  /-- The entry of a name is the metadata of what was registered under it last. -/
  metadata : ∀ name, Keyed.find? name entries = (lastRegistered log name).map ofCallable
  /-- The groups are those of different kinds, and have the entries of the flat export that were
  last registered as their kind, in the same order, and no others. -/
  members : ∀ g ∈ groups, ∃ kind, g = (JobKind.name kind, .obj (ofKind log kind entries))
  nodup : (Keyed.keys groups).Nodup
  /-- Each entry is in exactly one group, that of the kind that was registered last. -/
  home : ∀ name c, lastRegistered log name = some c →
    ∃ g ∈ groups, g.1 = c.kind.name ∧ (name, ofCallable c) ∈ entriesOf g.2 ∧
      ∀ other ∈ groups, name ∈ Keyed.keys (entriesOf other.2) → other = g
  /-- Conditions and actions have a group in any case. -/
  conditions : JobKind.condition.name ∈ Keyed.keys groups
  actions : JobKind.action.name ∈ Keyed.keys groups
  /-- Other jobs have one when there are any. -/
  jobs : JobKind.job.name ∈ Keyed.keys groups ↔
    ∃ name c, lastRegistered log name = some c ∧ c.kind = .job

theorem mem_toList_iff (hnodup : (Keyed.keys r.callables).Nodup)
    (hlast : ∀ name, r.get? name = lastRegistered log name) (c : Callable) :
    c ∈ r.toList ↔ ∃ name, lastRegistered log name = some c := by
  simp [Registry.toList, Keyed.values, ← hlast, Registry.get?, Keyed.find?_eq_some_iff hnodup]

/-- An entry of the flat export is in the group of the kind that it was registered as last, and
in no other one. -/
theorem mem_ofKind_iff {name : String} {c : Callable} {kind : JobKind} {entries : Object}
    (hc : lastRegistered log name = some c) (hentry : (name, ofCallable c) ∈ entries) :
    (name, ofCallable c) ∈ ofKind log kind entries ↔ kind = c.kind := by
  simp [ofKind, hc, hentry, eq_comm]

theorem kind_of_mem_keys_ofKind {name : String} {c : Callable} {kind : JobKind} {entries : Object}
    (hc : lastRegistered log name = some c) (h : name ∈ Keyed.keys (ofKind log kind entries)) :
    kind = c.kind := by
  obtain ⟨e, he, rfl⟩ := List.mem_map.1 h
  have hkind := (List.mem_filter.1 he).2
  simpa [hc, eq_comm] using hkind

theorem sameEntries (h : r.Refines log) (hlast : ∀ name, r.get? name = lastRegistered log name) :
    SameEntries log (entriesFor r.callables) ((groupKinds r).map fun kind =>
      (kind.name, .obj (ofKind log kind (entriesFor r.callables)))) := by
  have hnodup : (Keyed.keys r.callables).Nodup := h.nodup
  have hkeys : Keyed.keys ((groupKinds r).map fun kind =>
      (kind.name, Value.obj (ofKind log kind (entriesFor r.callables)))) =
        (groupKinds r).map JobKind.name := by
    simp [Keyed.keys]
  have hmem (kind : JobKind) : kind.name ∈ (groupKinds r).map JobKind.name ↔ kind ∈ groupKinds r :=
    List.mem_map_of_injective name_injective
  constructor
  case names => rw [keys_entriesFor, ← h.names, Registry.names]
  case metadata =>
    intro name
    rw [entriesFor, Keyed.find?_mapValues, ← hlast, Registry.get?]
  case members =>
    intro g hg
    obtain ⟨kind, -, rfl⟩ := List.mem_map.1 hg
    exact ⟨kind, rfl⟩
  case nodup =>
    rw [hkeys]
    exact (nodup_groupKinds r).map name_injective
  case home =>
    intro name c hc
    have hcallable : (name, c) ∈ r.callables :=
      (Keyed.find?_eq_some_iff hnodup).1 ((hlast name).trans hc)
    have hentry : (name, ofCallable c) ∈ entriesFor r.callables :=
      List.mem_map_of_mem (f := fun e => (e.1, ofCallable e.2)) hcallable
    have hkind : c.kind ∈ groupKinds r := by
      rw [mem_groupKinds_iff]
      by_cases hjob : c.kind = .job
      · exact .inr ⟨c, (mem_toList_iff hnodup hlast c).2 ⟨name, hc⟩, hjob⟩
      · exact .inl hjob
    refine ⟨_, List.mem_map_of_mem hkind, rfl, (mem_ofKind_iff hc hentry).2 rfl, ?_⟩
    intro other hother hin
    obtain ⟨kind, -, rfl⟩ := List.mem_map.1 hother
    rw [kind_of_mem_keys_ofKind hc hin]
  case conditions =>
    rw [hkeys, hmem, mem_groupKinds_iff]
    exact .inl (by decide)
  case actions =>
    rw [hkeys, hmem, mem_groupKinds_iff]
    exact .inl (by decide)
  case jobs =>
    rw [hkeys, hmem, mem_groupKinds_iff]
    simp only [ne_eq, not_true, false_or, mem_toList_iff hnodup hlast]
    constructor
    · rintro ⟨c, ⟨name, hc⟩, hjob⟩
      exact ⟨name, c, hc, hjob⟩
    · rintro ⟨name, c, hc, hjob⟩
      exact ⟨c, ⟨name, hc⟩, hjob⟩

end Export

/-- **Grouped and flat exports carry the same entries**, whatever was registered and imported in
the course of any operations on an engine. -/
theorem Engine.performAll_exports (diagnose : Diagnosis) (ops : List Operation) :
    let r := ((new diagnose).performAll ops).engine.registry
    let log := ops.flatMap Operation.insertions
    ∃ entries groups, Export.ofRegistry false .dict r = .value (.obj entries) ∧
      Export.ofRegistry true .dict r = .value (.obj groups) ∧
      Export.SameEntries log entries groups := by
  intro r log
  have hr : r = (Registry.empty.insertAll log).value := registry_performAll _ ops
  have hrefines : r.Refines log := hr ▸ Registry.Refines.empty.insertAll log
  have hlast (name : String) : r.get? name = lastRegistered log name :=
    hr ▸ Registry.get?_insertAll log name
  have hflat : Export.flat r = .obj (Export.entriesFor r.callables) :=
    Export.ofCallables_eq hrefines.nodup hrefines.ownName
  have hgrouped := Export.grouped_eq hrefines hlast
  exact ⟨_, _, congrArg Export.Output.value hflat, congrArg Export.Output.value hgrouped,
    Export.sameEntries hrefines hlast⟩

/-- A condition and an action are registered, then a source is imported that has the condition's
function, which makes it a job in the same position. -/
example :
    let f : Function := ⟨"f", [], none, fun s _ => ⟨.ok .null, s, []⟩⟩
    let g : Function := ⟨"g", [], some "G.", fun s _ => ⟨.ok .null, s, []⟩⟩
    let ops : List Operation :=
      [.register ⟨some "first", .condition, f⟩, .register ⟨none, .action, g⟩,
        .importFrom ⟨[f], none⟩ none]
    let r := ((Engine.new .terse).performAll ops).engine.registry
    let ofF := ("f", Value.obj [("args", .obj []), ("doc", .null), ("name", .str "f")])
    let ofG := ("g", Value.obj [("args", .obj []), ("doc", .str "G."), ("name", .str "g")])
    Export.flat r = .obj [ofF, ofG] ∧
      Export.grouped r =
        .obj [("condition", .obj []), ("action", .obj [ofG]), ("job", .obj [ofF])] :=
  ⟨rfl, rfl⟩

end RuleEngine
