/-!
# RuleEngine.Text.Ranges

Sets of characters as lists of code ranges.
-/

namespace RuleEngine.Text

/-- Inclusive code ranges. -/
abbrev Ranges := List (Nat × Nat)

/-- Whether the character's code lies in one of the ranges. -/
def Ranges.contains (ranges : Ranges) (c : Char) : Bool :=
  ranges.any fun r => r.1 ≤ c.toNat && c.toNat ≤ r.2

end RuleEngine.Text
