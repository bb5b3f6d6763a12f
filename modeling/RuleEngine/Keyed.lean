/-!
# RuleEngine.Keyed

Keyed lists: entries under text keys, in the order in which the keys were
first set.  Setting a key that is present keeps its position, setting a new
one appends it, and removing a key moves the last entry into the freed
position.  `find?` is the view of a keyed list as a finite map and `keys` its
order; the lemmas say what each operation does to both.
-/

namespace RuleEngine

/-- Entries under text keys, first set first. -/
abbrev Keyed (α : Type) := List (String × α)

namespace Keyed

variable {α : Type}

/-- The value at a key. -/
def find? (key : String) : Keyed α → Option α
  | [] => none
  | (k, v) :: rest => if k = key then some v else find? key rest

/-- Whether the key is present. -/
def has (key : String) (o : Keyed α) : Bool := (find? key o).isSome

/-- The keys, in order. -/
def keys (o : Keyed α) : List String := o.map Prod.fst

/-- The values, in order. -/
def values (o : Keyed α) : List α := o.map Prod.snd

/-- Sets a key: in its position when it is present, else at the end. -/
def set (key : String) (value : α) : Keyed α → Keyed α
  | [] => [(key, value)]
  | (k, v) :: rest => if k = key then (k, value) :: rest else (k, v) :: set key value rest

/-- Replaces the entry of a key by the entry `last`. -/
def replaceBy (key : String) (last : String × α) : Keyed α → Keyed α
  | [] => []
  | (k, v) :: rest => if k = key then last :: rest else (k, v) :: replaceBy key last rest

/-- Removes a key: the last entry takes its position.  An absent key changes
nothing. -/
def remove (key : String) (o : Keyed α) : Keyed α :=
  match o.getLast? with
  | none => o
  | some last =>
    if last.1 = key then o.dropLast
    else if has key o then replaceBy key last o.dropLast
    else o

/-- Takes a key out: its value, and what is left. -/
def take (key : String) (o : Keyed α) : Option α × Keyed α := (find? key o, remove key o)

/-- The entries set one after the other, from the empty list: the last value
of a key wins, in the key's first position. -/
def ofEntries (entries : List (String × α)) : Keyed α :=
  entries.foldl (fun o e => set e.1 e.2 o) []

/-! ## Laws -/

@[simp] theorem find?_set (key : String) (value : α) (o : Keyed α) (k : String) :
    find? k (set key value o) = if k = key then some value else find? k o := by
  induction o with
  | nil => simp [set, find?, eq_comm]
  | cons e rest ih =>
    obtain ⟨k', v⟩ := e
    by_cases hk : k' = key
    · subst hk
      by_cases h : k = k' <;> simp [set, find?, h, eq_comm]
    · by_cases h : k' = k
      · subst h
        simp [set, find?, hk]
      · simp [set, find?, hk, h, ih]

theorem keys_set (key : String) (value : α) (o : Keyed α) :
    keys (set key value o) = if key ∈ keys o then keys o else keys o ++ [key] := by
  induction o with
  | nil => simp [set, keys]
  | cons e rest ih =>
    obtain ⟨k', v⟩ := e
    by_cases hk : k' = key
    · subst hk
      simp [set, keys]
    · have hk' : key ≠ k' := fun h => hk h.symm
      simp only [keys] at ih
      by_cases h : key ∈ rest.map Prod.fst <;> simp [set, keys, hk, hk', ih, h]

/-- A new key is appended. -/
theorem set_of_notMem {key : String} {o : Keyed α} (h : key ∉ keys o) (value : α) :
    set key value o = o ++ [(key, value)] := by
  induction o with
  | nil => rfl
  | cons e o ih =>
    obtain ⟨k, v⟩ := e
    obtain ⟨hk, ho⟩ := not_or.1 (mt List.mem_cons.2 h)
    rw [set, if_neg (Ne.symm hk), ih ho, List.cons_append]

theorem nodup_keys_set {key : String} {value : α} {o : Keyed α} (h : (keys o).Nodup) :
    (keys (set key value o)).Nodup := by
  rw [keys_set]
  split
  · exact h
  · next hk =>
    rw [List.nodup_append]
    refine ⟨h, by simp, ?_⟩
    intro a ha b hb hab
    rw [List.mem_singleton] at hb
    exact hk (hb ▸ hab ▸ ha)

theorem find?_isSome_iff (key : String) (o : Keyed α) : (find? key o).isSome ↔ key ∈ keys o := by
  induction o with
  | nil => simp [find?, keys]
  | cons e rest ih =>
    obtain ⟨k, v⟩ := e
    simp only [keys] at ih
    by_cases h : k = key
    · simp [find?, keys, h]
    · have h' : key ≠ k := fun e => h e.symm
      simp [find?, keys, h, h', ih]

theorem nodup_keys_foldl_set (entries : List (String × α)) {o : Keyed α} (h : (keys o).Nodup) :
    (keys (entries.foldl (fun o e => set e.1 e.2 o) o)).Nodup := by
  induction entries generalizing o with
  | nil => exact h
  | cons e entries ih => exact ih (nodup_keys_set h)

theorem nodup_keys_ofEntries (entries : List (String × α)) : (keys (ofEntries entries)).Nodup :=
  nodup_keys_foldl_set entries .nil

theorem mem_keys_of_mem {e : String × α} {o : Keyed α} (h : e ∈ o) : e.1 ∈ keys o :=
  List.mem_map_of_mem h

theorem find?_eq_some_iff {key : String} {value : α} {o : Keyed α} (h : (keys o).Nodup) :
    find? key o = some value ↔ (key, value) ∈ o := by
  induction o with
  | nil => simp [find?]
  | cons e rest ih =>
    obtain ⟨k, v⟩ := e
    obtain ⟨hk, hrest⟩ := List.nodup_cons.1 h
    by_cases he : k = key
    · subst he
      have hmem : (k, value) ∉ rest := fun hm => hk (mem_keys_of_mem (e := (k, value)) hm)
      simp [find?, hmem, eq_comm]
    · have he' : key ≠ k := fun e => he e.symm
      simp [find?, he, he', ih hrest]

/-! ## Removal -/

theorem filter_ne_of_notMem {key : String} {o : Keyed α} (h : key ∉ keys o) :
    o.filter (·.1 ≠ key) = o := by
  rw [List.filter_eq_self]
  intro e he
  have hne : e.1 ≠ key := fun heq => h (heq ▸ mem_keys_of_mem he)
  simp [hne]

/-- The entry that is replaced is gone, and the other one stands for it. -/
theorem replaceBy_perm {key : String} (last : String × α) {o : Keyed α} (h : (keys o).Nodup)
    (hkey : key ∈ keys o) : (replaceBy key last o).Perm (last :: o.filter (·.1 ≠ key)) := by
  induction o with
  | nil => cases hkey
  | cons e rest ih =>
    obtain ⟨k, v⟩ := e
    obtain ⟨hk, hrest⟩ := List.nodup_cons.1 h
    by_cases he : k = key
    · subst he
      simp only [replaceBy, if_true]
      rw [List.filter_cons_of_neg (by simp), filter_ne_of_notMem hk]
    · have hmem : key ∈ keys rest := by
        obtain heq | hmem := List.mem_cons.1 hkey
        · exact absurd heq.symm he
        · exact hmem
      simp only [replaceBy, if_neg he]
      rw [List.filter_cons_of_pos (by simp [he])]
      exact ((ih hrest hmem).cons (k, v)).trans (.swap ..)

/-- Removing a key leaves the entries of the other keys, in some order. -/
theorem remove_perm {key : String} {o : Keyed α} (h : (keys o).Nodup) :
    (remove key o).Perm (o.filter (·.1 ≠ key)) := by
  obtain rfl | ⟨init, last, rfl⟩ := List.eq_nil_or_concat o
  · exact .nil
  · rw [List.concat_eq_append] at h ⊢
    have hkeys : keys (init ++ [last]) = keys init ++ [last.1] := by simp [keys]
    rw [hkeys, List.nodup_append] at h
    obtain ⟨hinit, -, hlast⟩ := h
    have hlast : last.1 ∉ keys init := fun hmem => hlast _ hmem _ (by simp) rfl
    simp only [remove, List.getLast?_concat, List.dropLast_concat]
    rw [List.filter_append]
    by_cases hl : last.1 = key
    · rw [if_pos hl, filter_ne_of_notMem (hl ▸ hlast)]
      simp [hl]
    · have hlast : [last].filter (·.1 ≠ key) = [last] := by simp [hl]
      rw [if_neg hl, hlast]
      by_cases hmem : key ∈ keys init
      · have hhas : has key (init ++ [last]) = true :=
          (find?_isSome_iff ..).2 (hkeys ▸ List.mem_append_left _ hmem)
        rw [if_pos hhas]
        exact (replaceBy_perm last hinit hmem).trans (List.perm_append_singleton ..).symm
      · rw [filter_ne_of_notMem hmem]
        have hhas : ¬ has key (init ++ [last]) = true := by
          rw [has, find?_isSome_iff, hkeys]
          simp [hmem, Ne.symm hl]
        rw [if_neg hhas]

theorem nodup_keys_remove {key : String} {o : Keyed α} (h : (keys o).Nodup) :
    (keys (remove key o)).Nodup :=
  ((remove_perm h).map Prod.fst).nodup_iff.2 (h.sublist (List.filter_sublist.map _))

theorem find?_remove {key : String} {o : Keyed α} (h : (keys o).Nodup) (k : String) :
    find? k (remove key o) = if k = key then none else find? k o := by
  have hmem (value : α) : find? k (remove key o) = some value ↔
      find? k o = some value ∧ k ≠ key := by
    rw [find?_eq_some_iff (nodup_keys_remove h), find?_eq_some_iff h, (remove_perm h).mem_iff]
    simp
  split
  · next hk =>
    rw [Option.eq_none_iff_forall_ne_some]
    exact fun value hv => ((hmem value).1 hv).2 hk
  · next hk =>
    apply Option.ext
    intro value
    rw [hmem value, and_iff_left hk]

end Keyed

end RuleEngine
