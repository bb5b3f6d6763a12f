import RuleEngine.Yaml.Cursor

/-!
# RuleEngine.Yaml.Token.Folding

White space inside a scalar of several lines.  Blanks inside a line are kept; a
line break is folded to a blank, and of several line breaks all but the first
are kept.  A line separator or paragraph separator is not folded.
-/

namespace RuleEngine.Yaml

/-- White space read since the last visible character of a scalar. -/
structure Gap where
  /-- Blanks before any line break. -/
  blanks : List Char
  /-- Whether there was a line break. -/
  broken : Bool
  /-- The first line break. -/
  first : List Char
  /-- The line breaks after the first. -/
  others : List Char

namespace Gap

/-- No white space. -/
def none : Gap := ⟨[], false, [], []⟩

/-- An escaped line break: it leaves nothing behind. -/
def escapedBreak : Gap := ⟨[], true, [], []⟩

/-- Adds a blank; blanks at the front of a line are dropped. -/
def addBlank (g : Gap) (c : Char) : Gap :=
  if g.broken then g else { g with blanks := g.blanks ++ [c] }

/-- Adds a line break; blanks at the end of a line are dropped. -/
def addBreak (g : Gap) (cs : List Char) : Gap :=
  if g.broken then { g with others := g.others ++ cs }
  else ⟨[], true, cs, g.others⟩

/-- What stands for the white space in the scalar. -/
def fold (g : Gap) : List Char :=
  if !g.broken then g.blanks
  else if g.first = ['\n'] then if g.others.isEmpty then [' '] else g.others
  else g.first ++ g.others

end Gap

end RuleEngine.Yaml
