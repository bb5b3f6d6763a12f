import Mathlib.Data.List.Basic
import RuleEngine.Proofs.Callable.Binding

/-!
# RuleEngine.Proofs.Callable.Outcome

What binding a job comes to, said by the names alone.

1. `Function.undeclared` — the arguments that are not declared, in the order of the job.
2. `Function.leftOut` — the declared names that are not given, each once, in the order in which
   they are first declared; `Function.defaultOf` is the default of the first declaration of a
   name, and `Function.pending` has both.
3. `Function.lacking` — the names that are left out and have no default.

The walk over the parameters comes to just these: it stops at the first name that is lacking,
and otherwise appends the defaults of the names that are left out (`Function.complete_eq`).
`Function.bind_outcome` is what follows for binding.
-/

namespace RuleEngine.Function

/-! ## Names -/

/-- The arguments that a function does not declare, in their order; a function without
parameters takes every argument. -/
def undeclared (f : Function) (args : Object) : List String :=
  if f.params = [] then [] else (Keyed.keys args).filter fun name => name ∉ f.params.map Param.name

/-- The declared names that are not given, each once, in the order in which they are first
declared. -/
def leftOut (given : List String) (params : List Param) : List String :=
  ((params.map Param.name).filter fun name => name ∉ given).eraseDups

/-- The default that the first declaration of a name has. -/
def defaultOf (params : List Param) (name : String) : Option Value :=
  (firstDeclared name params).bind Param.default

/-- The names that are left out, each with its default, if it has one. -/
def pending (given : List String) (params : List Param) : List (String × Option Value) :=
  (leftOut given params).map fun name => (name, defaultOf params name)

/-- The names that are left out and have no default. -/
def lacking (given : List String) (params : List Param) : List String :=
  ((pending given params).filter fun e => e.2.isNone).map Prod.fst

/-- The names that are left out and have a default, with their defaults. -/
def defaults (given : List String) (params : List Param) : Object :=
  (pending given params).filterMap fun e => e.2.map (e.1, ·)

variable {given : List String} {params : List Param} {name : String}

theorem mem_leftOut :
    name ∈ leftOut given params ↔ name ∈ params.map Param.name ∧ name ∉ given := by
  simp [leftOut, List.mem_eraseDups]

/-- A declared name is skipped when it is given; else it is left out, and for the declarations
that follow it is as good as given. -/
theorem leftOut_cons (given : List String) (p : Param) (params : List Param) :
    leftOut given (p :: params) =
      if p.name ∈ given then leftOut given params
      else p.name :: leftOut (given ++ [p.name]) params := by
  simp only [leftOut, List.map_cons]
  split
  · next h => rw [List.filter_cons_of_neg (by simpa using h)]
  · next h =>
    rw [List.filter_cons_of_pos (by simpa using h), List.eraseDups_cons, List.filter_filter]
    congr 2
    apply List.filter_congr
    intro name _
    grind

theorem defaultOf_cons (p : Param) (params : List Param) (name : String) :
    defaultOf (p :: params) name = if p.name = name then p.default else defaultOf params name := by
  rw [defaultOf, firstDeclared_cons]
  split <;> rfl

/-- For a name that the other declarations leave out, only these count. -/
theorem map_defaultOf_cons {p : Param} (h : p.name ∈ given) :
    (leftOut given params).map (fun name => (name, defaultOf (p :: params) name)) =
      pending given params := by
  apply List.map_congr_left
  intro name hname
  have hne : p.name ≠ name := fun heq => (mem_leftOut.1 hname).2 (heq ▸ h)
  rw [defaultOf_cons, if_neg hne]

theorem pending_cons (given : List String) (p : Param) (params : List Param) :
    pending given (p :: params) =
      if p.name ∈ given then pending given params
      else (p.name, p.default) :: pending (given ++ [p.name]) params := by
  rw [pending, leftOut_cons]
  split
  · next h => exact map_defaultOf_cons h
  · rw [List.map_cons, map_defaultOf_cons (by simp), defaultOf_cons, if_pos rfl]

/-- What is lacking is a declaration that has no default and is the first one of a name that is
not given. -/
theorem mem_lacking :
    name ∈ lacking given params ↔
      ∃ front p back, params = front ++ p :: back ∧ p.name = name ∧ p.default = none ∧
        name ∉ given ∧ name ∉ front.map Param.name := by
  have hmem : name ∈ lacking given params ↔
      name ∈ leftOut given params ∧ defaultOf params name = none := by
    simp [lacking, pending]
  rw [hmem, mem_leftOut, defaultOf, ← firstDeclared_isSome_iff]
  constructor
  · rintro ⟨⟨hdeclared, hgiven⟩, hnone⟩
    obtain ⟨p, hp⟩ := Option.isSome_iff_exists.1 hdeclared
    obtain ⟨hname, front, back, hsplit, hfront⟩ := List.find?_eq_some_iff_append.1 hp
    rw [hp, Option.bind_some] at hnone
    refine ⟨front, p, back, hsplit, by simpa using hname, hnone, hgiven, ?_⟩
    simpa using hfront
  · rintro ⟨front, p, back, rfl, hname, hnone, hgiven, hfront⟩
    have hp : firstDeclared name (front ++ p :: back) = some p := by
      refine List.find?_eq_some_iff_append.2 ⟨by simpa using hname, front, back, rfl, ?_⟩
      simpa using hfront
    rw [hp, Option.bind_some]
    exact ⟨⟨rfl, hgiven⟩, hnone⟩

/-! ## The walk over the parameters -/

/-- The walk fails at the first name that is lacking; if none is, the defaults of the names
that are left out are appended. -/
theorem complete_eq (job : String) (values : Object) (params : List Param) :
    complete job values params =
      match lacking (Keyed.keys values) params with
      | name :: _ => .error (.missingArgument job name)
      | [] => .ok (values ++ defaults (Keyed.keys values) params) := by
  induction params generalizing values with
  | nil => simp [complete, lacking, defaults, pending, leftOut]
  | cons p params ih =>
    rw [complete]
    by_cases hgiven : p.name ∈ Keyed.keys values
    · have hhas : Keyed.has p.name values = true := (Keyed.find?_isSome_iff ..).2 hgiven
      rw [if_pos hhas, ih, lacking, lacking, defaults, defaults, pending_cons, if_pos hgiven]
    · have hhas : ¬ Keyed.has p.name values = true := mt (Keyed.find?_isSome_iff ..).1 hgiven
      rw [if_neg hhas, lacking, defaults, pending_cons, if_neg hgiven]
      cases hdefault : p.default with
      | none => simp
      | some default =>
        -- the default is a new entry at the end, and its name is given from here on
        have hset := Keyed.set_of_notMem hgiven default
        have hkeys :
            Keyed.keys (values ++ [(p.name, default)]) = Keyed.keys values ++ [p.name] := by
          simp [Keyed.keys]
        simp [ih, hset, hkeys, lacking, defaults]

/-- Where nothing is lacking, everything that is pending has a default. -/
theorem pending_eq (h : lacking given params = []) :
    pending given params = (defaults given params).map fun e => (e.1, some e.2) := by
  rw [lacking, List.map_eq_nil_iff, List.filter_eq_nil_iff] at h
  rw [defaults]
  generalize pending given params = entries at h ⊢
  induction entries with
  | nil => rfl
  | cons e entries ih =>
    obtain ⟨hfirst, hothers⟩ := List.forall_mem_cons.1 h
    obtain ⟨name, default⟩ := e
    cases default with
    | none => simp at hfirst
    | some default => simp [← ih hothers]

/-- Where nothing is lacking, the defaults stand under the names that are left out. -/
theorem keys_defaults (h : lacking given params = []) :
    Keyed.keys (defaults given params) = leftOut given params := by
  have hnames : (pending given params).map Prod.fst = leftOut given params := by
    rw [pending, List.map_map]
    exact List.map_id _
  rw [← hnames, pending_eq h, List.map_map]
  rfl

theorem defaultOf_of_mem_defaults {e : String × Value} (h : e ∈ defaults given params) :
    defaultOf params e.1 = some e.2 := by
  simp only [defaults, pending, List.mem_filterMap, List.mem_map] at h
  obtain ⟨_, ⟨name, -, rfl⟩, hentry⟩ := h
  obtain ⟨default, hdefault, rfl⟩ := Option.map_eq_some_iff.1 hentry
  exact hdefault

/-- Nothing is added where every declared name is given. -/
theorem complete_of_given (job : String) {values : Object}
    (h : ∀ name ∈ params.map Param.name, name ∈ Keyed.keys values) :
    complete job values params = .ok values := by
  have hleft : leftOut (Keyed.keys values) params = [] :=
    List.eq_nil_iff_forall_not_mem.2 fun name hname =>
      (mem_leftOut.1 hname).2 (h name (mem_leftOut.1 hname).1)
  simp [complete_eq, lacking, defaults, pending, hleft]

/-! ## Binding -/

theorem declares_eq_true_iff {f : Function} :
    f.declares name = true ↔ name ∈ f.params.map Param.name := by
  simp [declares]

theorem firstUndeclared_eq_head? (f : Function) (args : Object) :
    f.firstUndeclared args = (f.undeclared args).head? := by
  rw [firstUndeclared, undeclared]
  by_cases h : f.params = []
  · simp [h]
  · simp [h, ← declares_eq_true_iff]

theorem undeclared_eq_nil_iff {f : Function} {args : Object} :
    f.undeclared args = [] ↔
      f.params = [] ∨ ∀ name ∈ Keyed.keys args, name ∈ f.params.map Param.name := by
  rw [undeclared]
  by_cases h : f.params = [] <;> simp [h]

variable {f : Function} {job : Job}

theorem bind_of_undeclared {others : List String} (h : f.undeclared job.args = name :: others) :
    f.bind job = .error (.invalidArgument job.name name .unexpected) := by
  simp [bind, firstUndeclared_eq_head?, h]

theorem bind_of_declared (h : f.undeclared job.args = []) :
    f.bind job = (complete job.name job.args f.params).map fun values => ⟨job.name, values⟩ := by
  simp [bind, firstUndeclared_eq_head?, h]

/-- A job whose arguments are already bound binds to the same arguments. -/
theorem bind_bound {arguments : Arguments} (h : f.bind job = .ok arguments) :
    f.bind { job with args := arguments.values } = .ok arguments := by
  obtain ⟨hdeclared, bound, hcomplete, rfl⟩ := bind_eq_ok_iff.1 h
  have hgiven (name : String) (hname : name ∈ f.params.map Param.name) : name ∈ Keyed.keys bound :=
    (Keyed.find?_isSome_iff ..).1 (isSome_find?_complete hcomplete hname)
  have hundeclared : f.undeclared bound = [] := by
    rw [firstUndeclared_eq_head?, List.head?_eq_none_iff, undeclared_eq_nil_iff] at hdeclared
    rw [undeclared_eq_nil_iff]
    obtain hnone | hargs := hdeclared
    · exact .inl hnone
    · refine .inr fun name hname => ?_
      have hsome := (Keyed.find?_isSome_iff ..).2 hname
      rw [find?_complete hcomplete, Option.isSome_or, Bool.or_eq_true] at hsome
      obtain hown | hdefault := hsome
      · exact hargs name ((Keyed.find?_isSome_iff ..).1 hown)
      · -- a name that has a default has a declaration
        refine (firstDeclared_isSome_iff name f.params).1 ?_
        cases hfirst : firstDeclared name f.params with
        | some p => rfl
        | none => simp [hfirst] at hdefault
  rw [bind_of_declared hundeclared, complete_of_given job.name hgiven]
  rfl

/-- **Argument binding.**  An undeclared argument is an error, the first one in the order of
the job.  Else a parameter is an error that has no default and whose name neither the job
gives nor an earlier parameter has, the first one in the order of declaration.  Else the
arguments of the job are kept as they are, and behind them stand the other declared names,
each with the default of its first declaration.  What is bound binds to itself. -/
theorem bind_outcome (f : Function) (job : Job) :
    (∀ name others, f.undeclared job.args = name :: others →
        f.bind job = .error (.invalidArgument job.name name .unexpected)) ∧
      (f.undeclared job.args = [] →
        ∀ name others, lacking (Keyed.keys job.args) f.params = name :: others →
          f.bind job = .error (.missingArgument job.name name)) ∧
      (∀ name, name ∈ lacking (Keyed.keys job.args) f.params ↔
        ∃ front p back, f.params = front ++ p :: back ∧ p.name = name ∧ p.default = none ∧
          name ∉ Keyed.keys job.args ∧ name ∉ front.map Param.name) ∧
      (f.undeclared job.args = [] → lacking (Keyed.keys job.args) f.params = [] →
        ∃ added, f.bind job = .ok ⟨job.name, job.args ++ added⟩ ∧
          Keyed.keys added = leftOut (Keyed.keys job.args) f.params ∧
          ∀ e ∈ added, defaultOf f.params e.1 = some e.2) ∧
      ∀ arguments, f.bind job = .ok arguments →
        f.bind { job with args := arguments.values } = .ok arguments := by
  refine ⟨fun name others => bind_of_undeclared, ?_, fun name => mem_lacking, ?_,
    fun arguments => bind_bound⟩
  · intro hdeclared name others hlacking
    rw [bind_of_declared hdeclared, complete_eq, hlacking]
    rfl
  · intro hdeclared hlacking
    refine ⟨defaults (Keyed.keys job.args) f.params, ?_, keys_defaults hlacking,
      fun e he => defaultOf_of_mem_defaults he⟩
    rw [bind_of_declared hdeclared, complete_eq, hlacking]
    rfl

/-- Three jobs for a function that declares one name twice, requires another one and has null
as a default: one with an undeclared argument, one that lacks the required one, and one that
gives null for it. -/
theorem bind_outcome_declaredTwice :
    let one : Value := .num (.int 1 (by decide))
    let two : Value := .num (.int 2 (by decide))
    let f : Function :=
      ⟨"f", [⟨"x", .integer, some one⟩, ⟨"y", .any, none⟩, ⟨"x", .integer, some two⟩,
        ⟨"z", .any, some .null⟩], none, fun s _ => ⟨.ok .null, s, []⟩⟩
    f.bind ⟨"f", .job, [("y", one), ("u", one)]⟩ = .error (.invalidArgument "f" "u" .unexpected) ∧
      f.bind ⟨"f", .job, [("x", two)]⟩ = .error (.missingArgument "f" "y") ∧
      ∃ added, f.bind ⟨"f", .job, [("y", .null)]⟩ = .ok ⟨"f", [("y", .null)] ++ added⟩ ∧
        Keyed.keys added = ["x", "z"] ∧ ∀ e ∈ added, defaultOf f.params e.1 = some e.2 := by
  intro one two f
  refine ⟨?_, ?_, ?_⟩
  · exact (bind_outcome f ⟨"f", .job, [("y", one), ("u", one)]⟩).1 "u" [] (by decide)
  · exact (bind_outcome f ⟨"f", .job, [("x", two)]⟩).2.1 (by decide) "y" [] (by decide)
  · exact (bind_outcome f ⟨"f", .job, [("y", .null)]⟩).2.2.2.1 (by decide) (by decide)

end RuleEngine.Function
