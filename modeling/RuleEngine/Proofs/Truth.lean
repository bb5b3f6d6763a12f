import RuleEngine.Proofs.Double
import RuleEngine.Value

/-!
# RuleEngine.Proofs.Truth

The falsy values, one by one.  Truth of a number is decided on the double next
to it; that this singles out the zeros is `truthy_eq_false_iff`.
-/

namespace RuleEngine.Value

/-- The values that are falsy: null, false, an integer zero, a double zero of
either sign, and the empty string, list and object. -/
inductive Falsy : Value → Prop
  | null : Falsy .null
  | false : Falsy (.bool false)
  | int (inRange : -0x8000000000000000 ≤ (0 : Int) ∧ (0 : Int) < 0x10000000000000000) :
    Falsy (.num (.int 0 inRange))
  | float {x : Float} (finite : x.isFinite = true) (zero : x = 0 ∨ x = -0) :
    Falsy (.num (.float x finite))
  | str : Falsy (.str "")
  | arr : Falsy (.arr [])
  | obj : Falsy (.obj [])

/-- A number is falsy when the double next to it equals zero. -/
theorem falsy_num_iff (n : Number) : Falsy (.num n) ↔ (n.toFloat == 0) = true := by
  cases n with
  | int n inRange =>
    rw [Number.toFloat_int_beq_zero_iff]
    constructor
    · intro hfalsy
      cases hfalsy
      rfl
    · intro heq
      subst heq
      exact .int inRange
  | float x finite =>
    rw [Number.toFloat, Double.beq_zero_iff]
    constructor
    · intro hfalsy
      cases hfalsy
      assumption
    · exact .float finite

theorem truthy_eq_false_iff (v : Value) : v.truthy = false ↔ v.Falsy := by
  cases v with
  | null => simp [truthy, Falsy.null]
  | bool b =>
    constructor
    · intro heq
      subst heq
      exact .false
    · intro hfalsy
      cases hfalsy
      rfl
  | num n => simp [truthy, falsy_num_iff, bne]
  | str s =>
    simp only [truthy, Bool.not_eq_false', String.isEmpty_iff]
    constructor
    · intro heq
      subst heq
      exact .str
    · intro hfalsy
      cases hfalsy
      rfl
  | arr items =>
    simp only [truthy, Bool.not_eq_false', List.isEmpty_iff]
    constructor
    · intro heq
      subst heq
      exact .arr
    · intro hfalsy
      cases hfalsy
      rfl
  | obj entries =>
    simp only [truthy, Bool.not_eq_false', List.isEmpty_iff]
    constructor
    · intro heq
      subst heq
      exact .obj
    · intro hfalsy
      cases hfalsy
      rfl

end RuleEngine.Value
