import RuleEngine.Text.Ranges

/-!
# RuleEngine.Text.Blank

White space by the Unicode property `White_Space`, and trimming by it.
-/

namespace RuleEngine.Text

/-- Characters with the property `White_Space`. -/
def whiteSpace : Ranges :=
  [(0x9, 0xd), (0x20, 0x20), (0x85, 0x85), (0xa0, 0xa0), (0x1680, 0x1680), (0x2000, 0x200a),
    (0x2028, 0x2029), (0x202f, 0x202f), (0x205f, 0x205f), (0x3000, 0x3000)]

/-- Whether the character is white space. -/
def isBlank (c : Char) : Bool := whiteSpace.contains c

/-- Drops the characters in the class at both ends. -/
def trimBy (class? : Char → Bool) (cs : List Char) : List Char :=
  ((cs.dropWhile class?).reverse.dropWhile class?).reverse

/-- Drops the white space at both ends. -/
def trim (s : String) : String := String.ofList (trimBy isBlank s.toList)

end RuleEngine.Text
