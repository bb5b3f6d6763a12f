import RuleEngine.Callable

/-!
# RuleEngine.Proofs.Callable.Binding

Binding a job to a list of parameters, in which a name may be declared several times.

1. `Param.fill` is what one parameter does to the arguments: they stay when its name is
   bound already, else its default is added, if it has one.
2. Of several declarations of one name only the first one counts: it gives the default
   (`find?_complete`), and it decides whether an argument is missing (`complete_isOk_iff`).
3. `bind_eq_ok_iff` takes a successful binding apart.
-/

namespace RuleEngine

/-! ## One parameter -/

namespace Param

/-- The arguments with the default of the parameter, unless its name is bound; none when
it is missing. -/
def fill (p : Param) (values : Object) : Option Object :=
  if Keyed.has p.name values then some values
  else p.default.map fun default => Keyed.set p.name default values

theorem fill_isSome_iff (p : Param) (values : Object) :
    (p.fill values).isSome ↔ Keyed.has p.name values = true ∨ p.default.isSome := by
  rw [fill]
  split
  · next h => simp [h]
  · next h => simp [h]

theorem given_or_default {p : Param} {values filled : Object} (h : p.fill values = some filled) :
    Keyed.has p.name values = true ∨ p.default.isSome :=
  (fill_isSome_iff p values).1 (Option.isSome_iff_exists.2 ⟨filled, h⟩)

theorem find?_fill {p : Param} {values filled : Object} (h : p.fill values = some filled)
    (name : String) :
    Keyed.find? name filled =
      (Keyed.find? name values).or (if p.name = name then p.default else none) := by
  rw [fill] at h
  split at h
  · next hbound =>
    obtain ⟨v, hv⟩ := Option.isSome_iff_exists.1 hbound
    cases h
    by_cases hname : p.name = name
    · subst hname
      rw [hv, Option.some_or]
    · rw [if_neg hname, Option.or_none]
  · next hfree =>
    have hnone : Keyed.find? p.name values = none := by simpa [Keyed.has] using hfree
    obtain ⟨default, hdefault, rfl⟩ := Option.map_eq_some_iff.1 h
    rw [Keyed.find?_set]
    by_cases hname : p.name = name
    · subst hname
      rw [if_pos rfl, if_pos rfl, hnone, Option.none_or, hdefault]
    · rw [if_neg (Ne.symm hname), if_neg hname, Option.or_none]

end Param

namespace Function

/-! ## All parameters -/

/-- The first declaration of a name. -/
def firstDeclared (name : String) (params : List Param) : Option Param :=
  params.find? fun p => p.name = name

theorem firstDeclared_cons (name : String) (p : Param) (params : List Param) :
    firstDeclared name (p :: params) =
      if p.name = name then some p else firstDeclared name params := by
  rw [firstDeclared, List.find?_cons]
  by_cases h : p.name = name <;> simp [h, firstDeclared]

theorem firstDeclared_isSome_iff (name : String) (params : List Param) :
    (firstDeclared name params).isSome ↔ name ∈ params.map Param.name := by
  simp [firstDeclared, List.find?_isSome]

variable {job : String} {params : List Param} {values bound : Object}

theorem complete_cons (job : String) (values : Object) (p : Param) (params : List Param) :
    complete job values (p :: params) =
      match p.fill values with
      | some filled => complete job filled params
      | none => .error (.missingArgument job p.name) := by
  rw [complete, Param.fill]
  split
  · rfl
  · cases p.default <;> rfl

/-- A name is bound to the value that is given for it, and if none is given to the default
of its first declaration. -/
theorem find?_complete (h : complete job values params = .ok bound) (name : String) :
    Keyed.find? name bound =
      (Keyed.find? name values).or ((firstDeclared name params).bind Param.default) := by
  induction params generalizing values with
  | nil =>
    rw [complete] at h
    cases h
    exact (Option.or_none ..).symm
  | cons p params ih =>
    rw [complete_cons] at h
    split at h
    · next filled hfilled =>
      rw [ih h, Param.find?_fill hfilled, firstDeclared_cons, Option.or_assoc]
      by_cases hname : p.name = name
      · -- a later declaration could only count where the first one left the name free
        subst hname
        obtain hbound | hdefault := Param.given_or_default hfilled
        · obtain ⟨v, hv⟩ := Option.isSome_iff_exists.1 hbound
          rw [hv, Option.some_or, Option.some_or]
        · obtain ⟨default, hdefault⟩ := Option.isSome_iff_exists.1 hdefault
          simp [hdefault]
      · rw [if_neg hname, if_neg hname, Option.none_or]
    · cases h

/-- Nothing is missing exactly when every name that is left out has a default in its first
declaration. -/
theorem complete_isOk_iff (job : String) (values : Object) (params : List Param) :
    (∃ bound, complete job values params = .ok bound) ↔
      ∀ name p, firstDeclared name params = some p →
        Keyed.has name values = true ∨ p.default.isSome := by
  induction params generalizing values with
  | nil => simp [complete, firstDeclared]
  | cons p params ih =>
    rw [complete_cons]
    split
    · next filled hfilled =>
      have hp := Param.given_or_default hfilled
      rw [ih]
      refine forall₂_congr fun name q => ?_
      rw [firstDeclared_cons, Keyed.has, Param.find?_fill hfilled, Option.isSome_or, ← Keyed.has]
      by_cases hname : p.name = name
      · subst hname
        rw [if_pos rfl, if_pos rfl, Bool.or_eq_true]
        refine iff_of_true (fun _ => .inl hp) fun heq => ?_
        exact Option.some.inj heq ▸ hp
      · simp [hname]
    · next hmissing =>
      refine iff_of_false (by simp) fun h => ?_
      have hsome := (Param.fill_isSome_iff p values).2
        (h p.name p (by rw [firstDeclared_cons, if_pos rfl]))
      rw [hmissing] at hsome
      cases hsome

/-- Every declared name is bound. -/
theorem isSome_find?_complete (h : complete job values params = .ok bound) {name : String}
    (hname : name ∈ params.map Param.name) : (Keyed.find? name bound).isSome := by
  obtain ⟨p, hp⟩ := Option.isSome_iff_exists.1 ((firstDeclared_isSome_iff name params).2 hname)
  have hgiven := (complete_isOk_iff job values params).1 ⟨bound, h⟩ name p hp
  rw [find?_complete h, hp, Option.isSome_or, Bool.or_eq_true]
  exact hgiven

/-! ## Binding -/

theorem firstUndeclared_eq_none {f : Function} {args : Object}
    (h : ∀ name ∈ Keyed.keys args, f.declares name = true) : f.firstUndeclared args = none := by
  rw [firstUndeclared]
  split
  · rfl
  · simpa using h

theorem bind_eq_ok_iff {f : Function} {job : Job} {arguments : Arguments} :
    f.bind job = .ok arguments ↔
      f.firstUndeclared job.args = none ∧
        ∃ bound, complete job.name job.args f.params = .ok bound ∧
          arguments = ⟨job.name, bound⟩ := by
  rw [bind]
  split
  · next name hname => simp [hname]
  · next hname =>
    cases complete job.name job.args f.params <;> simp [hname, Except.map, eq_comm]

end Function

end RuleEngine
