import RuleEngine.Yaml.Cursor

/-!
# RuleEngine.Yaml.Token

The tokens of a YAML text.
-/

namespace RuleEngine.Yaml

/-- A tag as it is written: a handle, which may be empty, and what follows
it. -/
structure TagText where
  handle : String
  suffix : String
deriving DecidableEq

/-- A token. -/
inductive Token where
  /-- A version directive. -/
  | version (major minor : Nat)
  /-- A directive that lets a handle stand for the beginning of tags. -/
  | handle (handle start : String)
  | documentStart
  | documentEnd
  | sequenceStart
  | mappingStart
  /-- The end of a block sequence or mapping. -/
  | blockEnd
  | flowSequenceStart
  | flowSequenceEnd
  | flowMappingStart
  | flowMappingEnd
  /-- The dash before an item. -/
  | item
  /-- The comma between members in brackets. -/
  | comma
  /-- What follows is a key. -/
  | key
  /-- What follows is the value of a key. -/
  | value
  | alias (name : String)
  | anchor (name : String)
  | tag (tag : TagText)
  /-- A scalar; `plain` when it is not quoted and no block. -/
  | scalar (plain : Bool) (text : String)
deriving DecidableEq

end RuleEngine.Yaml
