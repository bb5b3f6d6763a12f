import Mathlib.Data.List.Induction
import Mathlib.Data.List.Nodup
import RuleEngine.Export
import RuleEngine.Proofs.Callable.Binding

/-!
# RuleEngine.Proofs.Export.Defaults

The defaults that the metadata of a callable report, beside those that are bound.

1. Entries that are set one after the other keep the first position of a key and its last
   value (`Keyed.keys_ofEntries`, `Keyed.find?_ofEntries`).  So of several declarations of
   one name the metadata report the last one, while binding goes by the first.
2. `bindsAsReported_iff` — a callable binds the defaults that it reports exactly when the
   first default of each name is reported by the last declaration of the name, as is the
   case when no name is declared twice.
-/

namespace RuleEngine

namespace Keyed

variable {α : Type}

theorem ofEntries_concat (entries : List (String × α)) (e : String × α) :
    ofEntries (entries ++ [e]) = set e.1 e.2 (ofEntries entries) := by
  simp [ofEntries]

/-- The keys stand in the order in which they were first set. -/
theorem keys_ofEntries (entries : List (String × α)) :
    keys (ofEntries entries) = (keys entries).eraseDups := by
  induction entries using List.reverseRecOn with
  | nil => rfl
  | append_singleton entries e ih =>
    have hkeys : keys (entries ++ [e]) = keys entries ++ [e.1] := by simp [keys]
    rw [ofEntries_concat, keys_set, ih, hkeys, List.eraseDups_append]
    by_cases h : e.1 ∈ keys entries
    · simp [h, List.removeAll]
    · simp [h, List.removeAll, List.eraseDups_cons]

/-- The last value that was set under a key counts. -/
theorem find?_ofEntries (key : String) (entries : List (String × α)) :
    find? key (ofEntries entries) = find? key entries.reverse := by
  induction entries using List.reverseRecOn with
  | nil => rfl
  | append_singleton entries e ih =>
    rw [ofEntries_concat, find?_set, ih, List.reverse_concat, find?]
    by_cases h : key = e.1
    · rw [if_pos h, if_pos h.symm]
    · rw [if_neg h, if_neg (Ne.symm h)]

end Keyed

namespace Export

/-! ## What metadata report -/

/-- The entries of an object, none for any other value. -/
def entriesOf : Value → Object
  | .obj entries => entries
  | _ => []

/-- The parameters that the metadata of a callable report. -/
def reportedParams (metadata : Value) : Object :=
  entriesOf ((Keyed.find? "args" (entriesOf metadata)).getD .null)

/-- The names of the reported parameters, in order. -/
def reportedNames (metadata : Value) : List String := Keyed.keys (reportedParams metadata)

/-- The reported default of a parameter. -/
def reportedDefault (metadata : Value) (name : String) : Option Value :=
  (Keyed.find? name (reportedParams metadata)).bind fun p => Keyed.find? "default" (entriesOf p)

theorem reportedParams_ofCallable (c : Callable) :
    reportedParams (ofCallable c) =
      Keyed.ofEntries (c.function.params.map fun p => (p.name, ofParam p)) := by
  simp [reportedParams, ofCallable, entriesOf, Keyed.find?]

/-- The declared names are reported, each once. -/
theorem reportedNames_ofCallable (c : Callable) :
    reportedNames (ofCallable c) = (c.function.params.map Param.name).eraseDups := by
  rw [reportedNames, reportedParams_ofCallable, Keyed.keys_ofEntries, Keyed.keys, List.map_map]
  rfl

theorem find?_map_name {α : Type} (f : Param → α) (name : String) (params : List Param) :
    Keyed.find? name (params.map fun p => (p.name, f p)) =
      (Function.firstDeclared name params).map f := by
  induction params with
  | nil => rfl
  | cons p params ih =>
    rw [List.map_cons, Keyed.find?, Function.firstDeclared_cons, ih]
    split <;> rfl

/-- The default of the last declaration of a name is reported, null when it has none. -/
theorem reportedDefault_ofCallable (c : Callable) (name : String) :
    reportedDefault (ofCallable c) name =
      (Function.firstDeclared name c.function.params.reverse).map fun q =>
        q.default.getD .null := by
  rw [reportedDefault, reportedParams_ofCallable, Keyed.find?_ofEntries, ← List.map_reverse,
    find?_map_name]
  cases Function.firstDeclared name c.function.params.reverse <;> rfl

/-! ## What is bound -/

/-- Whatever job is bound, each reported name is bound: to the value that the job gives, and
if it gives none to the reported default. -/
def BindsAsReported (c : Callable) : Prop :=
  ∀ job arguments, c.function.bind job = .ok arguments →
    ∀ name ∈ reportedNames (ofCallable c), ∃ default,
      reportedDefault (ofCallable c) name = some default ∧
        arguments.raw name = some ((Keyed.find? name job.args).getD default)

/-- The default in the first declaration of a name is reported by the last one. -/
def ReportsFirstDefaults (params : List Param) : Prop :=
  ∀ name first last default, Function.firstDeclared name params = some first →
    Function.firstDeclared name params.reverse = some last → first.default = some default →
      last.default.getD .null = default

/-- A job that leaves out one name only. -/
def jobWithout (name : String) (params : List Param) : Job :=
  ⟨name, .job, (params.filter (·.name ≠ name)).map fun p => (p.name, .null)⟩

variable {c : Callable}

/-- Bound is what the job gives, or else the default of the first declaration. -/
theorem raw_of_bind {job : Job} {arguments : Arguments} (h : c.function.bind job = .ok arguments)
    {name : String} (hname : name ∈ reportedNames (ofCallable c)) :
    ∃ first, Function.firstDeclared name c.function.params = some first ∧
      arguments.raw name = (Keyed.find? name job.args).or first.default ∧
      (arguments.raw name).isSome := by
  obtain ⟨-, bound, hcomplete, rfl⟩ := Function.bind_eq_ok_iff.1 h
  rw [reportedNames_ofCallable, List.mem_eraseDups] at hname
  obtain ⟨first, hfirst⟩ :=
    Option.isSome_iff_exists.1 ((Function.firstDeclared_isSome_iff ..).2 hname)
  refine ⟨first, hfirst, ?_, Function.isSome_find?_complete hcomplete hname⟩
  rw [Arguments.raw, Function.find?_complete hcomplete, hfirst, Option.bind_some]

theorem mem_keys_jobWithout {name other : String} {params : List Param} :
    other ∈ Keyed.keys (jobWithout name params).args ↔
      other ∈ params.map Param.name ∧ other ≠ name := by
  simp only [jobWithout, Keyed.keys, List.map_map, List.mem_map, List.mem_filter,
    Function.comp_apply, decide_eq_true_eq]
  constructor
  · rintro ⟨p, ⟨hp, hne⟩, rfl⟩
    exact ⟨⟨p, hp, rfl⟩, hne⟩
  · rintro ⟨⟨p, hp, rfl⟩, hne⟩
    exact ⟨p, ⟨hp, hne⟩, rfl⟩

/-- A job may leave out a name that has a default in its first declaration. -/
theorem bind_jobWithout {name : String} {first : Param}
    (hfirst : Function.firstDeclared name c.function.params = some first)
    (hdefault : first.default.isSome) :
    ∃ arguments, c.function.bind (jobWithout name c.function.params) = .ok arguments := by
  have hdeclared : c.function.firstUndeclared (jobWithout name c.function.params).args = none := by
    refine Function.firstUndeclared_eq_none fun other hother => ?_
    obtain ⟨p, hp, hname⟩ := List.mem_map.1 (mem_keys_jobWithout.1 hother).1
    exact List.any_eq_true.2 ⟨p, hp, decide_eq_true hname⟩
  obtain ⟨bound, hbound⟩ := (Function.complete_isOk_iff
      (jobWithout name c.function.params).name (jobWithout name c.function.params).args
      c.function.params).2 fun other p hp => by
    by_cases hother : other = name
    · subst hother
      obtain rfl := Option.some.inj (hfirst.symm.trans hp)
      exact .inr hdefault
    · have hmem := (Function.firstDeclared_isSome_iff other c.function.params).1 (hp ▸ rfl)
      exact .inl ((Keyed.find?_isSome_iff ..).2 (mem_keys_jobWithout.2 ⟨hmem, hother⟩))
  exact ⟨_, Function.bind_eq_ok_iff.2 ⟨hdeclared, bound, hbound, rfl⟩⟩

/-! ## Agreement -/

theorem bindsAsReported_of_reportsFirstDefaults (h : ReportsFirstDefaults c.function.params) :
    BindsAsReported c := by
  intro job arguments hbind name hname
  obtain ⟨first, hfirst, hraw, hsome⟩ := raw_of_bind hbind hname
  rw [reportedNames_ofCallable, List.mem_eraseDups] at hname
  have hlast : name ∈ c.function.params.reverse.map Param.name := by simpa using hname
  obtain ⟨last, hlast⟩ :=
    Option.isSome_iff_exists.1 ((Function.firstDeclared_isSome_iff ..).2 hlast)
  refine ⟨last.default.getD .null, by rw [reportedDefault_ofCallable, hlast, Option.map_some], ?_⟩
  rw [hraw] at hsome ⊢
  cases hgiven : Keyed.find? name job.args with
  | some v => rfl
  | none =>
    rw [hgiven, Option.none_or] at hsome
    obtain ⟨default, hdefault⟩ := Option.isSome_iff_exists.1 hsome
    rw [Option.none_or, hdefault, Option.getD_none, h name first last default hfirst hlast hdefault]

theorem reportsFirstDefaults_of_bindsAsReported (h : BindsAsReported c) :
    ReportsFirstDefaults c.function.params := by
  intro name first last default hfirst hlast hdefault
  have hname : name ∈ reportedNames (ofCallable c) := by
    rw [reportedNames_ofCallable, List.mem_eraseDups]
    exact (Function.firstDeclared_isSome_iff ..).1 (hfirst ▸ rfl)
  -- a job that leaves out this name alone tells the two defaults apart
  obtain ⟨arguments, hbind⟩ := bind_jobWithout hfirst (hdefault ▸ rfl)
  obtain ⟨reported, hreported, hbound⟩ := h _ arguments hbind name hname
  obtain ⟨first', hfirst', hraw, -⟩ := raw_of_bind hbind hname
  obtain rfl := Option.some.inj (hfirst.symm.trans hfirst')
  have hleft : Keyed.find? name (jobWithout name c.function.params).args = none := by
    by_contra hgiven
    have hmem := (Keyed.find?_isSome_iff ..).1 (Option.isSome_iff_ne_none.2 hgiven)
    exact (mem_keys_jobWithout.1 hmem).2 rfl
  rw [hleft, Option.none_or, hdefault] at hraw
  rw [hleft, Option.getD_none, hraw] at hbound
  rw [reportedDefault_ofCallable, hlast, Option.map_some] at hreported
  exact (Option.some.inj hreported).trans (Option.some.inj hbound).symm

/-- Where no name is declared twice, the first declaration is the last one. -/
theorem reportsFirstDefaults_of_nodup {params : List Param}
    (h : (params.map Param.name).Nodup) : ReportsFirstDefaults params := by
  intro name first last default hfirst hlast hdefault
  have hfirstName : first.name = name := by simpa using List.find?_some hfirst
  have hlastName : last.name = name := by simpa using List.find?_some hlast
  obtain rfl : first = last :=
    List.inj_on_of_nodup_map h (List.mem_of_find?_eq_some hfirst)
      (List.mem_reverse.1 (List.mem_of_find?_eq_some hlast)) (hfirstName.trans hlastName.symm)
  rw [hdefault, Option.getD_some]

/-- **Exported defaults and bound defaults.**  The metadata of a callable report the declared
names, each once; and whenever a job is bound, each of them is bound to the value that the
job gives, or else to the default of its first declaration.  The default that is reported
is that of the last declaration.  So the reported defaults are the ones that are bound if
and only if both declarations agree, and they are if no name is declared twice. -/
theorem bindsAsReported_iff (c : Callable) :
    reportedNames (ofCallable c) = (c.function.params.map Param.name).eraseDups ∧
      (∀ job arguments, c.function.bind job = .ok arguments →
        ∀ name ∈ reportedNames (ofCallable c), ∃ first,
          Function.firstDeclared name c.function.params = some first ∧
            arguments.raw name = (Keyed.find? name job.args).or first.default ∧
            (arguments.raw name).isSome) ∧
      (BindsAsReported c ↔ ReportsFirstDefaults c.function.params) ∧
      ((c.function.params.map Param.name).Nodup → BindsAsReported c) :=
  ⟨reportedNames_ofCallable c, fun _ _ hbind _ hname => raw_of_bind hbind hname,
    ⟨reportsFirstDefaults_of_bindsAsReported, bindsAsReported_of_reportsFirstDefaults⟩,
    fun h => bindsAsReported_of_reportsFirstDefaults (reportsFirstDefaults_of_nodup h)⟩

/-- A parameter that is declared twice, with the defaults `1` and `2`: the first one is
bound, and the second one is reported. -/
theorem not_bindsAsReported_declaredTwice :
    let one : Value := .num (.int 1 (by decide))
    let two : Value := .num (.int 2 (by decide))
    let f : Function :=
      ⟨"f", [⟨"x", .integer, some one⟩, ⟨"x", .integer, some two⟩], none,
        fun s _ => ⟨.ok .null, s, []⟩⟩
    f.bind ⟨"f", .job, []⟩ = .ok ⟨"f", [("x", one)]⟩ ∧
      reportedDefault (ofCallable ⟨"f", "f", .job, f⟩) "x" = some two ∧
      ¬ BindsAsReported ⟨"f", "f", .job, f⟩ := by
  intro one two f
  have hbind : f.bind ⟨"f", .job, []⟩ = .ok ⟨"f", [("x", one)]⟩ := by rfl
  have hreported : reportedDefault (ofCallable ⟨"f", "f", .job, f⟩) "x" = some two := by
    rw [reportedDefault_ofCallable]
    rfl
  refine ⟨hbind, hreported, fun h => ?_⟩
  obtain ⟨default, hdefault, hraw⟩ := h _ _ hbind "x" (by rw [reportedNames_ofCallable]; decide)
  obtain rfl := Option.some.inj (hreported.symm.trans hdefault)
  exact absurd hraw (by decide)

end Export

end RuleEngine
