import Mathlib
import RuleEngine.Number

/-!
# RuleEngine.Proofs.Double

Which numbers of a document are zero as doubles.

* `Double.beq_zero_iff` — the doubles that equal zero are the zeros of the two
  signs;
* `Number.toFloat_int_beq_zero_iff` — no integer other than zero becomes zero as a
  double: the pattern of its double has a significand or an exponent.
-/

namespace RuleEngine

namespace Double

open Float.Model

/-- The doubles that equal zero are the zeros of the two signs. -/
theorem beq_zero_iff (x : Float) : (x == 0) = true ↔ x = 0 ∨ x = -0 := by
  have hzero : (0 : Float) ≠ Float.nan := by
    rw [ne_eq, ← Float.toBits_inj]
    decide
  have hminus : (-0 : Float) ≠ Float.nan := by
    rw [ne_eq, ← Float.toBits_inj]
    decide
  rw [Float.beq_iff_ne_nan_and_eq]
  constructor
  · intro heq
    obtain ⟨-, -, h | h | h⟩ := heq
    · exact .inl h
    · exact .inl h.1
    · exact .inr h.1
  · intro hzero
    obtain rfl | rfl := hzero
    · exact ⟨hzero, hzero, .inl rfl⟩
    · exact ⟨hminus, hzero, .inr (.inr ⟨rfl, rfl⟩)⟩

/-- A pattern is that of the double made from it, unless it is that of no
number. -/
theorem toBits_ofBits (bits : UInt64) :
    (Float.ofBits bits).toBits = bits ∨ (Float.ofBits bits).toBits = Float.nan.toBits := by
  have hpack := @UnpackedFloat.pack_unpack Format.binary64 bits.toBitVec (by decide)
  simp only [Float.ofBits, Float.toBits, Float.Model.ofBits, Float.Model.pack, hpack]
  split
  · exact .inr rfl
  · exact .inl rfl

/-- A double equals zero when it is made from a pattern of zero. -/
theorem ofBits_beq_zero {bits : UInt64} (h : (Float.ofBits bits == 0) = true) :
    bits.toNat % 2 ^ 63 = 0 := by
  have hbits : (Float.ofBits bits).toBits = 0 ∨ (Float.ofBits bits).toBits = 0x8000000000000000 := by
    obtain h | h := (beq_zero_iff _).1 h
    · exact .inl (h ▸ rfl)
    · exact .inr (h ▸ rfl)
  obtain hsame | hnan := toBits_ofBits bits
  · rw [hsame] at hbits
    obtain rfl | rfl := hbits
    · rfl
    · rfl
  · rw [hnan] at hbits
    exact absurd hbits (by decide)

end Double

/-! ## Integers as doubles -/

namespace Decimal

theorem le_divideNearest (a b : Nat) : a / b ≤ divideNearest a b := by
  simp only [divideNearest]
  grind

theorem divideNearest_le (a b : Nat) : divideNearest a b ≤ a / b + 1 := by
  simp only [divideNearest]
  grind

theorem scaleRatio_natCast (a b k : Nat) : scaleRatio a b k = (a * 2 ^ k, b) := by
  simp [scaleRatio, Nat.shiftLeft_eq]

theorem scaleRatio_neg_natCast (a b k : Nat) : scaleRatio a b (-k) = (a, b * 2 ^ k) := by
  cases k with
  | zero => simp [scaleRatio]
  | succ k =>
    change scaleRatio a b (.negSucc k) = _
    simp [scaleRatio, Nat.shiftLeft_eq]

/-- Scaled by its own magnitude, a natural has 53 significant bits. -/
theorem scaleRatio_log2_bounds {a : Nat} (h : a ≠ 0) :
    2 ^ 52 ≤ (scaleRatio a 1 (52 - a.log2)).1 / (scaleRatio a 1 (52 - a.log2)).2 ∧
      (scaleRatio a 1 (52 - a.log2)).1 / (scaleRatio a 1 (52 - a.log2)).2 < 2 ^ 53 := by
  have hlow := Nat.log2_self_le h
  have hhigh := Nat.lt_log2_self (n := a)
  generalize a.log2 = l at *
  obtain hl | hl := Nat.le_total l 52
  · obtain ⟨k, hk⟩ := Nat.exists_eq_add_of_le hl
    have hpow : 2 ^ 52 = 2 ^ l * 2 ^ k := by rw [hk, Nat.pow_add]
    have hpow' : 2 ^ 53 = 2 ^ (l + 1) * 2 ^ k := by rw [← Nat.pow_add]; congr 1; omega
    rw [show (52 : Int) - l = (k : Int) by omega, scaleRatio_natCast, Nat.div_one, hpow, hpow']
    exact ⟨Nat.mul_le_mul_right _ hlow, Nat.mul_lt_mul_of_pos_right hhigh (Nat.two_pow_pos k)⟩
  · obtain ⟨k, hk⟩ := Nat.exists_eq_add_of_le hl
    have hpow : 2 ^ 52 * 2 ^ k = 2 ^ l := by rw [hk, Nat.pow_add]
    have hpow' : 2 ^ 53 * 2 ^ k = 2 ^ (l + 1) := by rw [← Nat.pow_add]; congr 1; omega
    rw [show (52 : Int) - l = -(k : Int) by omega, scaleRatio_neg_natCast, Nat.one_mul,
      Nat.le_div_iff_mul_le (Nat.two_pow_pos k), Nat.div_lt_iff_lt_mul (Nat.two_pow_pos k), hpow,
      hpow']
    exact ⟨hlow, hhigh⟩

theorem unitExponent_one {a : Nat} (h : a ≠ 0) : unitExponent a 1 = a.log2 - 52 := by
  have hbounds := (scaleRatio_log2_bounds h).1
  have hlog : Nat.log2 1 = 0 := by decide
  simp only [unitExponent, hlog]
  rw [show -((a.log2 : Int) - (0 : Nat) - 52) = 52 - a.log2 by omega, if_neg (by omega)]
  omega

/-- The pattern of a positive natural of up to 65 bits is finite and not empty. -/
theorem bitsOfRatio_one {a : Nat} (h : a ≠ 0) (hlt : a < 2 ^ 65) :
    ∃ bits, bitsOfRatio a 1 = some bits ∧ 2 ^ 52 ≤ bits ∧ bits < 0x7ff * 2 ^ 52 := by
  obtain ⟨hlow, hhigh⟩ := scaleRatio_log2_bounds h
  have hlog : a.log2 < 65 := (Nat.log2_lt h).2 hlt
  simp only [bitsOfRatio]
  rw [if_neg h, unitExponent_one h, show -((a.log2 : Int) - 52) = 52 - a.log2 by omega]
  generalize scaleRatio a 1 (52 - a.log2) = scaled at *
  have hle := le_divideNearest scaled.1 scaled.2
  have hge := divideNearest_le scaled.1 scaled.2
  generalize divideNearest scaled.1 scaled.2 = m at *
  have hm : ¬ m < 1 <<< 52 := by omega
  simp only [if_neg hm]
  rw [if_pos (by omega)]
  exact ⟨_, rfl, by omega, by omega⟩

end Decimal

namespace Number

/-- No integer other than zero becomes zero as a double. -/
theorem toFloat_int_beq_zero_iff {n : Int}
    (h : -0x8000000000000000 ≤ n ∧ n < 0x10000000000000000) :
    ((Number.int n h).toFloat == 0) = true ↔ n = 0 := by
  constructor
  · intro hzero
    by_contra hn
    obtain ⟨bits, hbits, hlow, hhigh⟩ :=
      Decimal.bitsOfRatio_one (a := n.natAbs) (by omega) (by omega)
    have hlt : (if decide (n < 0) = true then bits + 1 <<< 63 else bits) < 2 ^ 64 := by
      split <;> omega
    simp only [toFloat, Decimal.ofRatio, hbits, Option.map_some, Option.getD_some] at hzero
    have hmod := Double.ofBits_beq_zero hzero
    rw [UInt64.toNat_ofNat_of_lt' hlt] at hmod
    split at hmod <;> omega
  · intro heq
    subst heq
    rw [Double.beq_zero_iff]
    exact .inl rfl

end Number

end RuleEngine
