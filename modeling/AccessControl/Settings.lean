import AccessControl.Storage.FileTree
import AccessControl.Toml.Overlay
import AccessControl.Toml.Reader
/-!
Settings: where the model is, and where and in which way the policy is kept. The values of several
sources are laid over each other, those of the environment over those of a document, and what they
make up over the defaults. Case does not matter in names, and what no setting is named for is ignored.
-/
namespace AccessControl
open Toml (Table)

/-- In which way the policy is kept. -/
inductive Backend where
  | file
  | database
deriving DecidableEq, Repr

namespace Backend

def name : Backend → String
  | file => "file"
  | database => "database"

/-- The way with a name, in which case does not matter. -/
def ofName? (name : String) : Option Backend :=
  [file, database].find? fun backend => backend.name == name.toLower

end Backend

structure Settings where
  modelPath : String := "config/model.conf"
  backend : Backend := .file
  policyPath : String := "config/policy.csv"
  databaseUrl : String := "sqlite://warden.db?mode=rwc"
deriving DecidableEq, Repr

namespace Settings

def table (settings : Settings) : Table :=
  [("model", .table [("path", .text settings.modelPath)]),
    ("storage", .table [("backend", .text settings.backend.name),
      ("policy_path", .text settings.policyPath), ("database_url", .text settings.databaseUrl)])]

def textOf? : Toml.Value → Option String
  | .text value => some value
  | .integer value => some (toString value)
  | .number value => some value
  | .time value => some value
  | .boolean value => some (if value then "true" else "false")
  | .array _ => none
  | .table _ => none

/-- The way that a value names, as a text or as the only key of a table. -/
def backendOf? : Toml.Value → Option Backend
  | .text name => Backend.ofName? name
  | .table [(name, _)] => Backend.ofName? name
  | _ => none

/-- A part of a group of settings, which is a table or the list of its values in order. -/
def part? (group : Toml.Value) (name : String) (index : Nat) : Option Toml.Value :=
  match group with
  | .table entries => Table.find? entries name
  | .array items => items[index]?
  | _ => none

/-- The settings in a table, all of which must be there. -/
def ofTable? (table : Table) : Option Settings := do
  let model ← table.find? "model"
  let storage ← table.find? "storage"
  let modelPath ← textOf? (← part? model "path" 0)
  let backend ← backendOf? (← part? storage "backend" 0)
  let policyPath ← textOf? (← part? storage "policy_path" 1)
  let databaseUrl ← textOf? (← part? storage "database_url" 2)
  return { modelPath, backend, policyPath, databaseUrl }

def variableStart : List Char := "warden__".toList

/-- The text with a dot for every two underscores. -/
def dotted : List Char → List Char
  | '_' :: '_' :: rest => '.' :: dotted rest
  | c :: rest => c :: dotted rest
  | [] => []

/-- The name that a variable of the environment gives a value to. -/
def variableName? (name : String) : Option String :=
  let lower := (Toml.lowerKey name).toList
  if variableStart.isPrefixOf lower then some (String.ofList (dotted (lower.drop variableStart.length)))
  else none

def ofEnvironment (environment : List (String × String)) : List (String × Toml.Value) :=
  environment.filterMap fun (name, value) =>
    (variableName? name).map fun setting => (setting, .text value)

/-- The settings that a document and an environment make up. The values of both are laid over each
other first, and then as a whole over the defaults. -/
def ofSources? (document : Table) (environment : List (String × String)) : Option Settings :=
  let given := (Table.layAll [] document).layAll (ofEnvironment environment)
  ofTable? (({} : Settings).table.layAll given)

def pathIn (directory path : String) : String :=
  if FileTree.isAbsolute path then path else directory ++ "/" ++ path

def inDirectory (directory : String) (settings : Settings) : Settings :=
  { settings with
    modelPath := pathIn directory settings.modelPath
    policyPath := pathIn directory settings.policyPath }

def documentEnding : String := "toml"

/-- The ending of the last name in a path. A dot in front starts no ending. -/
def ending? (path : String) : Option String := do
  let name ← ((path.toList.splitOn '/').filter (· ≠ [])).getLast?
  let ending := name.reverse.takeWhile (· != '.')
  guard (ending.length + 1 < name.length)
  return String.ofList ending.reverse

/-- The path of the file beside a directory whose name has the ending of documents. The directory must
be known by its own name and not as the one above another. -/
def besidePath? (files : FileTree) (path : String) : Option String := do
  let names := (files.start path ++ FileTree.names path).filter fun name => name != "" && name != "."
  guard (names.getLast?.any (· != ".."))
  return FileTree.pathOf names ++ "." ++ documentEnding

/-- The document at a path, without entries where nothing is. A directory stands for the file beside
it. -/
def document? (files : FileTree) (path : String) : Option Table := do
  match files.content path with
  | .error .isADirectory => Toml.ofText? (← (files.read (← besidePath? files path)).toOption)
  | .error _ => return []
  | .ok _ =>
    guard (ending? path = some documentEnding)
    Toml.ofText? (← (files.read path).toOption)

def load? (files : FileTree) (path : String) (environment : List (String × String)) :
    Option Settings := do
  ofSources? (← document? files path) environment

end Settings
end AccessControl
