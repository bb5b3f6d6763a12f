import Mathlib.Data.List.TakeDrop
import Mathlib.Tactic.SplitIfs
import RuleEngine.Json.Reader

/-!
# RuleEngine.Proofs.Json.Numbers

Numbers inside a longer text.

* `readNumber_append` — a number that is read from the whole of a text is read
  from the front of every longer one, as long as what follows does not go on
  with a number;
* `readNumber_integerText` — every integer in range is read back from its
  digits.
-/

namespace RuleEngine.Json

/-! ## What follows a number -/

/-- A text that does not go on with a number that ends before it. -/
inductive EndsNumber : List Char → Prop
  | nil : EndsNumber []
  | cons {c : Char} {cs : List Char} (digit : c.isDigit = false) (point : c ≠ '.')
    (lower : c ≠ 'e') (upper : c ≠ 'E') : EndsNumber (c :: cs)

theorem readDigits_cons (c : Char) (cs : List Char) :
    readDigits (c :: cs) =
      if c.isDigit then (c :: (readDigits cs).1, (readDigits cs).2) else ([], c :: cs) := by
  simp only [readDigits, List.span_eq_takeWhile_dropWhile, List.takeWhile_cons,
    List.dropWhile_cons]
  split_ifs <;> rfl

theorem readExponent_plus {c : Char} (h : c = 'e' ∨ c = 'E') (cs : List Char) :
    readExponent (c :: '+' :: cs) = (readPower false cs).map fun r => (some r.1, r.2) := by
  rw [readExponent.eq_def]
  exact if_pos h

theorem readExponent_minus {c : Char} (h : c = 'e' ∨ c = 'E') (cs : List Char) :
    readExponent (c :: '-' :: cs) = (readPower true cs).map fun r => (some r.1, r.2) := by
  rw [readExponent.eq_def]
  exact if_pos h

theorem readExponent_unsigned {c : Char} (h : c = 'e' ∨ c = 'E') {cs : List Char}
    (hplus : ∀ rest, cs ≠ '+' :: rest) (hminus : ∀ rest, cs ≠ '-' :: rest) :
    readExponent (c :: cs) = (readPower false cs).map fun r => (some r.1, r.2) := by
  rw [readExponent.eq_def]
  simp only [if_pos h]

theorem readExponent_other {c : Char} (h : ¬ (c = 'e' ∨ c = 'E')) (cs : List Char) :
    readExponent (c :: cs) = some (none, c :: cs) := by
  rw [readExponent.eq_def]
  exact if_neg h

theorem readNumber_unsigned {cs : List Char} (h : ∀ rest, cs ≠ '-' :: rest) :
    readNumber cs = readUnsigned false cs := by
  rw [readNumber.eq_def]
  split
  · exact absurd rfl (h _)
  · rfl

section

variable {rest : List Char}

theorem EndsNumber.readDigits (h : EndsNumber rest) : Json.readDigits rest = ([], rest) := by
  cases h with
  | nil => rfl
  | cons digit => rw [readDigits_cons, if_neg (by simp [digit])]

theorem readDigits_append (h : EndsNumber rest) (cs : List Char) :
    readDigits (cs ++ rest) = ((readDigits cs).1, (readDigits cs).2 ++ rest) := by
  induction cs with
  | nil => exact h.readDigits
  | cons c cs ih =>
    rw [List.cons_append, readDigits_cons, readDigits_cons, ih]
    split_ifs <;> rfl

theorem readWhole_append (h : EndsNumber rest) (cs : List Char) :
    readWhole (cs ++ rest) = (readWhole cs).map fun r => (r.1, r.2 ++ rest) := by
  simp only [readWhole, readDigits_append h]
  split <;> rfl

theorem readFraction_append (h : EndsNumber rest) (cs : List Char) :
    readFraction (cs ++ rest) = (readFraction cs).map fun r => (r.1, r.2 ++ rest) := by
  cases cs with
  | nil =>
    cases h with
    | nil => rfl
    | cons _ point => simp [readFraction, point]
  | cons c cs =>
    by_cases hc : c = '.'
    · subst hc
      simp only [List.cons_append, readFraction, readDigits_append h]
      split_ifs <;> rfl
    · simp [readFraction, hc]

theorem readPower_append (h : EndsNumber rest) (negative : Bool) (cs : List Char) :
    readPower negative (cs ++ rest) =
      (readPower negative cs).map fun r => (r.1, r.2 ++ rest) := by
  simp only [readPower, readDigits_append h]
  split <;> rfl

theorem readExponent_append (h : EndsNumber rest) {cs left : List Char} {power : Option Int}
    (hcs : readExponent cs = some (power, left)) :
    readExponent (cs ++ rest) = some (power, left ++ rest) := by
  have hpower (negative : Bool) (cs : List Char)
      (hcs : (readPower negative cs).map (fun r => (some r.1, r.2)) = some (power, left)) :
      (readPower negative (cs ++ rest)).map (fun r => (some r.1, r.2)) =
        some (power, left ++ rest) := by
    obtain ⟨r, hr, heq⟩ := Option.map_eq_some_iff.1 hcs
    cases heq
    rw [readPower_append h, hr]
    rfl
  cases cs with
  | nil =>
    cases hcs
    cases h with
    | nil => rfl
    | cons _ _ lower upper => simp [readExponent, lower, upper]
  | cons c cs =>
    by_cases hc : c = 'e' ∨ c = 'E'
    · -- a digit comes after the mark, so its sign is none of the characters that follow
      cases cs with
      | nil =>
        rw [readExponent_unsigned hc (by simp) (by simp)] at hcs
        cases hcs
      | cons sign cs =>
        by_cases hplus : sign = '+'
        · subst hplus
          rw [readExponent_plus hc] at hcs
          exact (readExponent_plus hc _).trans (hpower false cs hcs)
        · by_cases hminus : sign = '-'
          · subst hminus
            rw [readExponent_minus hc] at hcs
            exact (readExponent_minus hc _).trans (hpower true cs hcs)
          · rw [readExponent_unsigned hc (by simp [hplus]) (by simp [hminus])] at hcs
            rw [List.cons_append, List.cons_append,
              readExponent_unsigned hc (by simp [hplus]) (by simp [hminus])]
            exact hpower false (sign :: cs) hcs
    · rw [readExponent_other hc] at hcs
      cases hcs
      exact readExponent_other hc (cs ++ rest)

theorem readUnsigned_append (h : EndsNumber rest) {negative : Bool} {cs left : List Char}
    {n : Number} (hcs : readUnsigned negative cs = some (n, left)) :
    readUnsigned negative (cs ++ rest) = some (n, left ++ rest) := by
  obtain ⟨⟨whole, cs₁⟩, hwhole, hcs⟩ := Option.bind_eq_some_iff.1 hcs
  obtain ⟨⟨fraction, cs₂⟩, hfraction, hcs⟩ := Option.bind_eq_some_iff.1 hcs
  obtain ⟨⟨power, cs₃⟩, hexponent, hcs⟩ := Option.bind_eq_some_iff.1 hcs
  obtain ⟨number, hnumber, heq⟩ := Option.bind_eq_some_iff.1 hcs
  cases heq
  simp only [readUnsigned, readWhole_append h, hwhole, Option.map_some, readFraction_append h,
    hfraction, readExponent_append h hexponent, hnumber, bind, Option.bind]

/-- A number that ends a text is read from the front of a longer one. -/
theorem readNumber_append (h : EndsNumber rest) {cs left : List Char} {n : Number}
    (hcs : readNumber cs = some (n, left)) : readNumber (cs ++ rest) = some (n, left ++ rest) := by
  cases cs with
  | nil => cases hcs
  | cons c cs =>
    by_cases hc : c = '-'
    · subst hc
      exact readUnsigned_append h hcs
    · rw [readNumber_unsigned (by simp [hc])] at hcs
      rw [List.cons_append, readNumber_unsigned (by simp [hc])]
      exact readUnsigned_append h hcs

end

/-! ## Integers -/

theorem readDigits_digits {digits : List Char} (h : ∀ c ∈ digits, c.isDigit) :
    readDigits digits = (digits, []) := by
  induction digits with
  | nil => rfl
  | cons c digits ih =>
    obtain ⟨hc, hdigits⟩ := List.forall_mem_cons.1 h
    rw [readDigits_cons, if_pos hc, ih hdigits]

theorem isDigit_of_mem_toDigits {n : Nat} : ∀ c ∈ Nat.toDigits 10 n, c.isDigit :=
  fun _ hc => Nat.isDigit_of_mem_toDigits (by decide) (by decide) hc

/-- No natural but zero is written with a zero in front. -/
theorem head?_toDigits_ne_zero {n : Nat} (h : n ≠ 0) : (Nat.toDigits 10 n).head? ≠ some '0' := by
  induction n using Nat.strongRecOn with
  | ind n ih =>
    rw [Nat.toDigits_eq_if (by decide)]
    split_ifs with hlt
    · simpa using h
    · have hhead := ih (n / 10) (by omega) (by omega)
      cases hdigits : Nat.toDigits 10 (n / 10) with
      | nil => exact absurd hdigits Nat.toDigits_ne_nil
      | cons c digits =>
        rw [hdigits] at hhead
        exact hhead

/-- The digits of a natural are a whole part. -/
theorem readWhole_toDigits (n : Nat) :
    readWhole (Nat.toDigits 10 n) = some (Nat.toDigits 10 n, []) := by
  by_cases hn : n = 0
  · subst hn
    rfl
  · have hhead := head?_toDigits_ne_zero hn
    simp only [readWhole, readDigits_digits isDigit_of_mem_toDigits]
    split
    · next heq => exact absurd heq Nat.toDigits_ne_nil
    · next heq => simp [heq] at hhead
    · next heq => simp [heq] at hhead
    · rfl

theorem readUnsigned_toDigits (negative : Bool) (n : Nat) :
    readUnsigned negative (Nat.toDigits 10 n) =
      (numberOf negative (Nat.toDigits 10 n) [] none).map fun number => (number, []) := by
  simp only [readUnsigned, readWhole_toDigits, readFraction, readExponent, bind, Option.bind]
  cases numberOf negative (Nat.toDigits 10 n) [] none <;> rfl

/-- A whole part alone is an integer, unless it is minus zero. -/
theorem numberOf_toDigits {negative : Bool} {m : Nat} {n : Int}
    (hn : (if negative then -(m : Int) else m) = n) (hzero : negative = true → m ≠ 0)
    (h : -0x8000000000000000 ≤ n ∧ n < 0x10000000000000000) :
    numberOf negative (Nat.toDigits 10 m) [] none = some (.int n h) := by
  have hvalue : Nat.ofDigitChars 10 (Nat.toDigits 10 m) 0 = m :=
    Nat.ofDigitChars_toDigits (by decide) (by decide)
  have hwhole : (([] : List Char).isEmpty && (none : Option Int).isNone &&
      !(negative && decide (m = 0))) = true := by
    cases negative with
    | false => rfl
    | true => simpa using hzero rfl
  simp only [numberOf, hvalue]
  rw [if_pos hwhole, hn, Number.ofInt?_eq_some h]

/-- Every integer in range is read back from its digits. -/
theorem readNumber_integerText {n : Int}
    (h : -0x8000000000000000 ≤ n ∧ n < 0x10000000000000000) :
    readNumber (Number.integerText n) = some (.int n h, []) := by
  rw [Number.integerText]
  split_ifs with hneg
  · have hn : (if true then -(n.natAbs : Int) else n.natAbs) = n := by
      rw [if_pos rfl]
      omega
    rw [readNumber, readUnsigned_toDigits, numberOf_toDigits hn (fun _ => by omega) h]
    rfl
  · have hn : (if false then -(n.natAbs : Int) else n.natAbs) = n := by
      rw [if_neg Bool.false_ne_true]
      omega
    have hminus : ∀ cs, Nat.toDigits 10 n.natAbs ≠ '-' :: cs := by
      intro cs hcs
      have hdigit := isDigit_of_mem_toDigits '-' (hcs ▸ List.mem_cons_self)
      exact absurd hdigit (by decide)
    rw [readNumber_unsigned hminus, readUnsigned_toDigits,
      numberOf_toDigits hn (fun h => absurd h Bool.false_ne_true) h]
    rfl

end RuleEngine.Json
