import Mathlib.Tactic.SplitIfs
import RuleEngine.Json.Reader
import RuleEngine.Json.Text

/-!
# RuleEngine.Proofs.Json.Strings

Quoted strings are read back, whatever characters they hold: an escape is read
as the character it was written for, and every other character stands for
itself.

* `readEscape_unicode` — an escape by code, for the characters below U+0020;
* `readChars_escape` — one character, escaped or not;
* `readChars_flatMap_escape` — a whole string up to its closing quote.
-/

namespace RuleEngine.Json

/-! ## Codes -/

theorem hexValue?_hexDigit {n : Nat} (h : n < 16) : hexValue? (hexDigit n) = some n := by
  have hall : ∀ n < 16, hexValue? (hexDigit n) = some n := by decide
  exact hall n h

theorem charOfCode?_toNat (c : Char) : charOfCode? c.toNat = some c := by
  have hvalid : c.toNat.isValidChar := c.valid
  rw [charOfCode?, dif_pos hvalid]
  rfl

/-- The code of a character below U+0020 is read as that character. -/
theorem readEscape_unicode {c : Char} (h : c.toNat < 0x20) (cs : List Char) :
    readEscape ('u' :: '0' :: '0' :: hexDigit (c.toNat / 16) :: hexDigit (c.toNat % 16) :: cs) =
      some (c, cs) := by
  have hzero : hexValue? '0' = some 0 := by decide
  have hhigh : hexValue? (hexDigit (c.toNat / 16)) = some (c.toNat / 16) :=
    hexValue?_hexDigit (by omega)
  have hlow : hexValue? (hexDigit (c.toNat % 16)) = some (c.toNat % 16) :=
    hexValue?_hexDigit (by omega)
  have hcode : hexCode? '0' '0' (hexDigit (c.toNat / 16)) (hexDigit (c.toNat % 16)) =
      some c.toNat := by
    simp only [hexCode?, hzero, hhigh, hlow, bind, Option.bind]
    congr 1
    omega
  -- such a code is no half of a surrogate pair
  have hsurrogate : ¬ (0xD800 ≤ c.toNat ∧ c.toNat ≤ 0xDFFF) := by omega
  simp only [readEscape, hcode, bind, Option.bind, if_neg hsurrogate, charOfCode?_toNat]

/-! ## Characters -/

theorem readChars_backslash (fuel : Nat) (cs : List Char) :
    readChars (fuel + 1) ('\\' :: cs) =
      (readEscape cs).bind fun r =>
        (readChars fuel r.2).map fun chars => (r.1 :: chars.1, chars.2) := by
  rw [readChars]
  cases readEscape cs with
  | none => rfl
  | some r =>
    obtain ⟨c, cs⟩ := r
    cases h : readChars fuel cs <;> simp [h]

theorem readChars_plain {c : Char} (hquote : c ≠ '"') (hbackslash : c ≠ '\\')
    (hcontrol : ¬ c.toNat < 0x20) (fuel : Nat) (cs : List Char) :
    readChars (fuel + 1) (c :: cs) =
      (readChars fuel cs).map fun chars => (c :: chars.1, chars.2) := by
  rw [readChars, if_neg hquote, if_neg hbackslash, if_neg hcontrol]
  cases readChars fuel cs <;> rfl

/-- One character of a string is read from what it is written as. -/
theorem readChars_escape (c : Char) (fuel : Nat) (cs : List Char) :
    readChars (fuel + 1) (escape c ++ cs) =
      (readChars fuel cs).map fun chars => (c :: chars.1, chars.2) := by
  rw [escape]
  split_ifs with hquote hbackslash hnewline htab hreturn hbackspace hfeed hcontrol
  · rw [hquote]
    exact readChars_backslash fuel ('"' :: cs)
  · rw [hbackslash]
    exact readChars_backslash fuel ('\\' :: cs)
  · rw [hnewline]
    exact readChars_backslash fuel ('n' :: cs)
  · rw [htab]
    exact readChars_backslash fuel ('t' :: cs)
  · rw [hreturn]
    exact readChars_backslash fuel ('r' :: cs)
  · rw [hbackspace]
    exact readChars_backslash fuel ('b' :: cs)
  · rw [hfeed]
    exact readChars_backslash fuel ('f' :: cs)
  · rw [List.cons_append, readChars_backslash]
    simp only [List.cons_append, List.nil_append, readEscape_unicode hcontrol, Option.bind]
  · exact readChars_plain hquote hbackslash hcontrol fuel cs

/-! ## Strings -/

/-- A string is read up to its closing quote. -/
theorem readChars_flatMap_escape {s : List Char} {fuel : Nat} (h : s.length < fuel)
    (rest : List Char) : readChars fuel (s.flatMap escape ++ '"' :: rest) = some (s, rest) := by
  induction s generalizing fuel with
  | nil =>
    obtain ⟨fuel, rfl⟩ := Nat.exists_eq_succ_of_ne_zero (Nat.ne_of_gt h)
    rfl
  | cons c s ih =>
    obtain ⟨fuel, rfl⟩ := Nat.exists_eq_succ_of_ne_zero (Nat.ne_of_gt (Nat.zero_lt_of_lt h))
    have hs : s.length < fuel := by simpa using h
    rw [List.flatMap_cons, List.append_assoc, readChars_escape, ih hs]
    rfl

theorem length_le_flatMap_escape (s : List Char) : s.length ≤ (s.flatMap escape).length := by
  have hescape (c : Char) : 1 ≤ (escape c).length := by
    rw [escape]
    split_ifs <;> simp
  induction s with
  | nil => simp
  | cons c s ih =>
    have hc := hescape c
    simp only [List.flatMap_cons, List.length_append, List.length_cons]
    omega

/-- The string between quotes is read back: enough fuel is given by the length of
the text. -/
theorem readChars_quoted (s rest : List Char) :
    readChars ((s.flatMap escape ++ '"' :: rest).length + 1) (s.flatMap escape ++ '"' :: rest) =
      some (s, rest) := by
  have hlength := length_le_flatMap_escape s
  apply readChars_flatMap_escape
  simp only [List.length_append, List.length_cons]
  omega

end RuleEngine.Json
