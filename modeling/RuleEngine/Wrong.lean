import RuleEngine.Json.Text
import RuleEngine.Text.Quoted

/-!
# RuleEngine.Wrong

What can be wrong with a value that is decoded as a given type, and how it is
reported.
-/

namespace RuleEngine

/-- What was found in place of the wanted type. -/
inductive Found where
  | null
  | bool (b : Bool)
  | num (n : Number)
  | str (s : String)
  | list
  | map
deriving DecidableEq

/-- What a value is, as far as a report tells. -/
def Value.found : Value → Found
  | .null => .null
  | .bool b => .bool b
  | .num n => .num n
  | .str s => .str s
  | .arr _ => .list
  | .obj _ => .map

/-- The words for what was found. -/
def Found.describe : Found → String
  | .null => "null"
  | .bool true => "boolean `true`"
  | .bool false => "boolean `false`"
  | .num (.int n _) => "integer `" ++ String.ofList (Number.integerText n) ++ "`"
  | .num (.float x _) =>
    "floating point `" ++ String.ofList (Decimal.Layout.json.write x) ++ "`"
  | .str s => "string " ++ Text.quoted s
  | .list => "sequence"
  | .map => "map"

/-- A reason why a value does not decode. -/
inductive Wrong where
  /-- The value is of another type. -/
  | type (found : Found) (wanted : String)
  /-- The value is of the right type and not acceptable. -/
  | value (found : Found) (wanted : String)
  /-- The name of a variant is none of the known ones. -/
  | variant (name : String) (known : List String)
  /-- A field without a default is absent. -/
  | missing (field : String)
  /-- A field is given twice, under two of its names. -/
  | duplicate (field : String)
  /-- A list has too few or too many items. -/
  | length (count : Nat) (wanted : String)
deriving DecidableEq

/-- The report. -/
def Wrong.message : Wrong → String
  | .type found wanted => "invalid type: " ++ found.describe ++ ", expected " ++ wanted
  | .value found wanted => "invalid value: " ++ found.describe ++ ", expected " ++ wanted
  | .variant name known =>
    "unknown variant `" ++ name ++ "`, expected one of " ++
      ", ".intercalate (known.map fun k => "`" ++ k ++ "`")
  | .missing field => "missing field `" ++ field ++ "`"
  | .duplicate field => "duplicate field `" ++ field ++ "`"
  | .length count wanted => "invalid length " ++ toString count ++ ", expected " ++ wanted

end RuleEngine
