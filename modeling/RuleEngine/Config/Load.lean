import RuleEngine.Config
import RuleEngine.Error
import RuleEngine.Json.Reader
import RuleEngine.Setting.Variable
import RuleEngine.Toml.Document

/-!
# RuleEngine.Config.Load

Loading a configuration: the defaults, overridden by a file, overridden by
environment variables.

1. The extension of the file says what it holds: TOML, YAML or JSON.
2. A file that is not there holds nothing; one that cannot be read is an error,
   whatever the variables say.
3. The settings are decoded in the order of their names, unknown ones ignored.
-/

namespace RuleEngine.Config

/-- What the names of environment variables start with. -/
def variableStart : String := "VOLTAGE_JOBS_"

/-! ## Files -/

/-- What a configuration file holds. -/
inductive FileFormat where
  | toml
  | yaml
  | json
deriving DecidableEq

/-- The extension of a file name: what follows the last point of its last part,
unless that point comes first.  Slashes at the end of the name are ignored. -/
def extension? (name : String) : Option String :=
  let last := (name.toList.reverse.dropWhile (· = '/')).takeWhile (· ≠ '/')
  let tail := last.takeWhile (· ≠ '.')
  let front := last.drop (tail.length + 1)
  if last = ['.', '.'] ∨ front.isEmpty then none else some (String.ofList tail.reverse)

/-- The format of a file of a name. -/
def fileFormat (name : String) : Except Error FileFormat :=
  match extension? name with
  | none => .error (.config "Config file must have an extension")
  | some "toml" => .ok .toml
  | some "yaml" | some "yml" => .ok .yaml
  | some "json" => .ok .json
  | some other => .error (.config ("Unsupported config file format: " ++ other))

/-- The settings of a YAML document: a mapping, or nothing at all. -/
def readYaml (content : String) : Option Settings := do
  let d ← Yaml.Document.read? content
  match d.root with
  | .scalar _ _ true "" => some []
  | _ =>
    match ← d.tree? true with
    | .mapping entries => some (Keyed.ofEntries (Setting.ofTrees entries))
    | _ => none

/-- The settings of a JSON document, which is an object. -/
def readJson (content : String) : Option Settings :=
  match Json.read? content with
  | some (.obj entries) => some (Setting.ofEntries entries)
  | _ => none

/-- The settings of a file of a format. -/
def readFile (format : FileFormat) (content : String) : Option Settings :=
  match format with
  | .toml => Toml.read? content
  | .yaml => readYaml content
  | .json => readJson content

/-! ## Configurations -/

/-- The fields in the order of their names. -/
def fieldsByKey : List Field := [.exportFormat, .groupByKind, .logDir, .name]

/-- The values of the fields that are set. -/
def fieldValues (settings : Settings) : List (Field × Value) :=
  fieldsByKey.filterMap fun f => (Keyed.find? f.key settings).map fun s => (f, s.toValue)

/-- The error of a configuration that cannot be loaded. -/
def notLoaded : Error := .config "Failed to load configuration"

/-- The configuration of settings. -/
def ofSettings (settings : Settings) : Noted (Except Error Config) :=
  (default.setFields (fieldValues settings)).map fun c => c.mapError fun _ => notLoaded

/-- Loads a configuration from environment variables. -/
def load (environment : List (String × String)) : Noted (Except Error Config) :=
  ofSettings (Setting.ofVariables variableStart environment)

/-- Loads a configuration from a file of a name, which holds the content if
there is one, and from environment variables. -/
def loadFromFile (name : String) (content : Option String) (environment : List (String × String)) :
    Noted (Except Error Config) :=
  match fileFormat name with
  | .error e => .plain (.error e)
  | .ok format =>
    match content.map (readFile format) with
    | some none => .plain (.error notLoaded)
    | some (some settings) =>
      ofSettings (Setting.overrideAll settings (Setting.ofVariables variableStart environment))
    | none => ofSettings (Setting.ofVariables variableStart environment)

end RuleEngine.Config
