import RuleEngine.RunLog

/-!
# RuleEngine.Proofs.RunLog.Lines

Where there are line breaks in a line of a run log.  The texts of values have none, as they
are escaped: numbers are made of a few characters (`isNumeric_of_mem_number`), and in quoted
strings a line break is written by a letter (`Json.lineBreak_notMem_chars`).  Names are
written as they are.  So what is appended for a run is one line exactly when the time stamp,
the name of the engine, the names of the jobs of the rule and the names in the recorded
results are unbroken (`RunLog.isLine_line_iff`).
-/

namespace RuleEngine

/-! ## Line breaks -/

/-- A text without line breaks. -/
def Unbroken (s : String) : Prop := '\n' ∉ s.toList

instance (s : String) : Decidable (Unbroken s) := inferInstanceAs (Decidable ('\n' ∉ s.toList))

/-- A text that is one line: the only line break in it is its last character. -/
def IsLine (text : String) : Prop := ∃ body, text = body ++ "\n" ∧ Unbroken body

@[simp] theorem unbroken_append (s t : String) : Unbroken (s ++ t) ↔ Unbroken s ∧ Unbroken t := by
  simp [Unbroken]

theorem isLine_append_iff (body : String) : IsLine (body ++ "\n") ↔ Unbroken body := by
  constructor
  · rintro ⟨other, heq, hother⟩
    rwa [(String.append_left_inj "\n").1 heq]
  · exact fun h => ⟨body, rfl, h⟩

/-- An unbroken separator makes no line breaks. -/
theorem unbroken_intercalate {sep : String} (hsep : Unbroken sep) (texts : List String) :
    Unbroken (sep.intercalate texts) ↔ ∀ text ∈ texts, Unbroken text := by
  simp only [Unbroken, String.toList_intercalate] at hsep ⊢
  induction texts with
  | nil => simp
  | cons text texts ih =>
    cases texts with
    | nil => simp
    | cons other texts =>
      simp only [List.map_cons] at ih
      rw [List.map_cons, List.map_cons, List.intercalate_cons_cons, List.forall_mem_cons, ← ih]
      simp [hsep]

/-! ## Numbers -/

/-- The characters that numbers are written with. -/
def isNumeric (c : Char) : Bool := c.isDigit || ['-', '+', '.', 'e'].contains c

theorem isNumeric_of_mem_toDigits {n : Nat} {c : Char} (h : c ∈ Nat.toDigits 10 n) :
    isNumeric c = true := by
  have hdigit : c.isDigit = true := Nat.isDigit_of_mem_toDigits (by decide) (by decide) h
  rw [isNumeric, hdigit, Bool.true_or]

theorem isNumeric_of_mem_integerText {n : Int} {c : Char} (h : c ∈ Number.integerText n) :
    isNumeric c = true := by
  rw [Number.integerText] at h
  split at h
  · obtain rfl | h := List.mem_cons.1 h
    · rfl
    · exact isNumeric_of_mem_toDigits h
  · exact isNumeric_of_mem_toDigits h

namespace Decimal.Layout

theorem isNumeric_of_mem_placePoint {digits : List Char}
    (hdigits : ∀ c ∈ digits, isNumeric c = true) {n : Nat} {c : Char}
    (h : c ∈ placePoint digits n) : isNumeric c = true := by
  simp only [placePoint, List.mem_append, List.mem_cons] at h
  obtain (htake | hzero) | rfl | hrest := h
  · exact hdigits c (List.mem_of_mem_take htake)
  · obtain ⟨-, rfl⟩ := List.mem_replicate.1 hzero
    rfl
  · rfl
  · split at hrest
    · rw [List.mem_singleton.1 hrest]
      rfl
    · exact hdigits c (List.mem_of_mem_drop hrest)

theorem isNumeric_of_mem_magnitude {layout : Layout}
    (hplus : ∀ c ∈ layout.plus, isNumeric c = true) {d : Digits} {c : Char}
    (h : c ∈ layout.magnitude d) : isNumeric c = true := by
  have hpower {n : Nat} {negative : Prop} [Decidable negative]
      (h : c ∈ if negative then '-' :: Nat.toDigits 10 n else layout.plus ++ Nat.toDigits 10 n) :
      isNumeric c = true := by
    split at h
    · obtain rfl | h := List.mem_cons.1 h
      · rfl
      · exact isNumeric_of_mem_toDigits h
    · exact (List.mem_append.1 h).elim (hplus c) isNumeric_of_mem_toDigits
  simp only [magnitude] at h
  split at h
  · have hzero : ∀ c ∈ ['0', '.', '0'], isNumeric c = true := List.all_eq_true.1 rfl
    exact hzero c h
  · split at h
    · obtain hmantissa | h := List.mem_append.1 h
      · -- the digits, with a point behind the first one if there are more
        split at hmantissa
        · next first second rest heq =>
          have hdigit (hc : c ∈ first :: second :: rest) : isNumeric c = true :=
            isNumeric_of_mem_toDigits (heq ▸ hc)
          obtain rfl | rfl | hrest := by simpa only [List.mem_cons] using hmantissa
          · exact hdigit (.head _)
          · rfl
          · exact hdigit (.tail _ (List.mem_cons.2 hrest))
        · exact isNumeric_of_mem_toDigits hmantissa
      · obtain rfl | h := List.mem_cons.1 h
        · rfl
        · exact hpower h
    · split at h
      · simp only [List.mem_cons, List.mem_append] at h
        obtain rfl | rfl | hzero | hdigits := h
        · rfl
        · rfl
        · obtain ⟨-, rfl⟩ := List.mem_replicate.1 hzero
          rfl
        · exact isNumeric_of_mem_toDigits hdigits
      · exact isNumeric_of_mem_placePoint (fun _ => isNumeric_of_mem_toDigits) h

theorem isNumeric_of_mem_write {layout : Layout} (hplus : ∀ c ∈ layout.plus, isNumeric c = true)
    {x : Float} {c : Char} (h : c ∈ layout.write x) : isNumeric c = true := by
  simp only [write] at h
  split at h
  · obtain rfl | h := List.mem_cons.1 h
    · rfl
    · exact isNumeric_of_mem_magnitude hplus h
  · exact isNumeric_of_mem_magnitude hplus h

end Decimal.Layout

/-- A number is written with these characters only. -/
theorem isNumeric_of_mem_number {n : Number} {c : Char} (h : c ∈ n.text .json) :
    isNumeric c = true := by
  cases n with
  | int n inRange => exact isNumeric_of_mem_integerText h
  | float x finite => exact Decimal.Layout.isNumeric_of_mem_write (List.all_eq_true.1 rfl) h

theorem notMem_number {c : Char} (hc : isNumeric c = false) (n : Number) : c ∉ n.text .json :=
  fun h => absurd (isNumeric_of_mem_number h) (by simp [hc])

/-! ## Values -/

namespace Json

theorem lineBreak_notMem_escape (c : Char) : '\n' ∉ escape c := by
  have hdigit : ∀ n < 16, hexDigit n ≠ '\n' := by decide
  by_cases hc : c = '\n'
  · subst hc
    decide
  · rw [escape]
    -- six other characters have an escape of their own
    iterate 6
      split
      · decide
    split
    · next hcontrol =>
      have hhigh := hdigit (c.toNat / 16) (by omega)
      have hlow := hdigit (c.toNat % 16) (by omega)
      simp [Ne.symm hhigh, Ne.symm hlow]
    · simpa using Ne.symm hc

theorem lineBreak_notMem_quote (s : List Char) : '\n' ∉ quote s := by
  simp [quote, lineBreak_notMem_escape]

mutual
/-- The text of a value has no line break. -/
theorem lineBreak_notMem_chars : (v : Value) → '\n' ∉ chars v
  | .null => by decide
  | .bool true => by decide
  | .bool false => by decide
  | .num n => notMem_number (by decide) n
  | .str s => lineBreak_notMem_quote s.toList
  | .arr items => by simp [chars, lineBreak_notMem_itemChars items]
  | .obj entries => by simp [chars, lineBreak_notMem_entryChars entries]

theorem lineBreak_notMem_itemChars : (vs : List Value) → '\n' ∉ itemChars vs
  | [] => by decide
  | [v] => by simp [itemChars, lineBreak_notMem_chars v]
  | v :: w :: vs => by
    simp [itemChars, lineBreak_notMem_chars v, lineBreak_notMem_itemChars (w :: vs)]

theorem lineBreak_notMem_entryChars : (es : List (String × Value)) → '\n' ∉ entryChars es
  | [] => by decide
  | [(k, v)] => by simp [entryChars, lineBreak_notMem_chars v, lineBreak_notMem_quote]
  | (k, v) :: e :: es => by
    simp [entryChars, lineBreak_notMem_chars v, lineBreak_notMem_quote,
      lineBreak_notMem_entryChars (e :: es)]
end

end Json

/-! ## Lines -/

theorem Text.mem_of_mem_trimBy {class? : Char → Bool} {cs : List Char} {c : Char}
    (h : c ∈ trimBy class? cs) : c ∈ cs := by
  rw [trimBy, List.mem_reverse] at h
  have hdropped := (List.dropWhile_sublist class?).mem h
  exact (List.dropWhile_sublist class?).mem (List.mem_reverse.1 hdropped)

namespace RunLog

/-- The name that a line gives for the job of a recorded result. -/
def entryName (entry : Value) : String :=
  ((entryField "job" entry).bind Value.asString?).getD "?"

theorem unbroken_formatJob (job : Job) : Unbroken (formatJob job) ↔ Unbroken job.name := by
  have htag : Unbroken (kindTag job.kind) := by cases job.kind <;> decide
  have hcolon : Unbroken ":" := by decide
  simp [formatJob, htag, hcolon]

theorem unbroken_formatJobs (jobs : List Job) :
    Unbroken (formatJobs jobs) ↔ ∀ job ∈ jobs, Unbroken job.name := by
  rw [formatJobs]
  split
  · next h =>
    rw [List.isEmpty_iff.1 h]
    exact iff_of_true (by decide) nofun
  · rw [unbroken_intercalate (by decide), List.forall_mem_map]
    exact forall₂_congr fun job _ => unbroken_formatJob job

theorem unbroken_formatResult (entry : Value) :
    Unbroken (formatResult entry) ↔ Unbroken (entryName entry) := by
  have hequals : Unbroken "=" := by decide
  have hvalue (v : Value) : Unbroken (String.ofList (Text.trimBy (· = '"') (Json.chars v))) := by
    intro hmem
    rw [String.toList_ofList] at hmem
    exact Json.lineBreak_notMem_chars v (Text.mem_of_mem_trimBy hmem)
  simp [formatResult, entryName, hequals, hvalue]

theorem unbroken_formatResults (results : List Value) :
    Unbroken (formatResults results) ↔ ∀ entry ∈ results, Unbroken (entryName entry) := by
  rw [formatResults]
  split
  · next h =>
    rw [List.isEmpty_iff.1 h]
    exact iff_of_true (by decide) nofun
  · rw [unbroken_intercalate (by decide), List.forall_mem_map]
    exact forall₂_congr fun entry _ => unbroken_formatResult entry

theorem unbroken_describe (rule : List Job) (results : List Value) (completed : Bool) :
    Unbroken (describe rule results completed) ↔
      (∀ job ∈ rule, Unbroken job.name) ∧ ∀ entry ∈ results, Unbroken (entryName entry) := by
  have hbar : Unbroken " | " := by decide
  have hstatus : Unbroken (status completed) := by cases completed <;> decide
  simp [describe, hbar, hstatus, unbroken_formatJobs, unbroken_formatResults]

/-- A line is one line exactly when what is written as it is has no line break: the time
stamp and the names. -/
theorem isLine_line_iff (log : RunLog) (time : String) (rule : List Job) (results : List Value)
    (completed : Bool) :
    IsLine (log.line time (describe rule results completed)) ↔
      Unbroken time ∧ Unbroken log.engine ∧
        (∀ job ∈ rule, Unbroken job.name) ∧ ∀ entry ∈ results, Unbroken (entryName entry) := by
  have htag : Unbroken " [RULE] " := by decide
  have hblank : Unbroken " " := by decide
  rw [line, isLine_append_iff]
  simp [htag, hblank, unbroken_describe, and_assoc]

end RunLog

end RuleEngine
