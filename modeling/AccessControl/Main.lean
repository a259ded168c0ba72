import AccessControl.Program
/-!
The command line. It looks at the files that the settings name, runs the program on them, and stores
those that have changed. No database engine is at hand, and so a
database is a text in a file of its own: a first line that names the form, and then the rows of the policy
table as rows of a policy text.
-/
namespace AccessControl
namespace Database

/-- The first line of a database without its table. -/
def emptyHeader : String := "policy database\n"

/-- The first line of a database with its table. -/
def tableHeader : String := "policy table\n"

def write (database : Database) : Except Error String :=
  match database.table? with
  | none => .ok emptyHeader
  | some _ => do return tableHeader ++ (← PolicyText.write (← database.load))

def read (text : String) : Except Error Database :=
  if text = emptyHeader then .ok ⟨none⟩
  else if text.startsWith tableHeader then do
    let rules ← PolicyText.read (String.ofList (text.toList.drop tableHeader.length))
    Database.save {} rules
  else .error .database

end Database

namespace Main

def variableNames : List String :=
  ["WARDEN__MODEL__PATH", "WARDEN__STORAGE__BACKEND", "WARDEN__STORAGE__POLICY_PATH",
    "WARDEN__STORAGE__DATABASE_URL"]

def environment : IO (List (String × String)) :=
  variableNames.filterMapM fun name => do return (← IO.getEnv name).map fun value => (name, value)

/-- The content that some bytes are. -/
def contentOf (bytes : ByteArray) : Content :=
  match String.fromUTF8? bytes with
  | none => .bytes bytes.toList
  | some text =>
    match Database.read text with
    | .ok database => .database database
    | .error _ => .text text

/-- Looks at a place. What is there and cannot be read as a file counts as a directory. -/
def look (files : FileTree) (place : Place) : IO FileTree := do
  if (files.at? place).isSome then return files
  match ← (IO.FS.readBinFile (FileTree.pathOf place)).toBaseIO with
  | .ok bytes => return files.put place (.file (contentOf bytes))
  | .error (.noFileOrDirectory ..) => return files
  | .error _ => return files.put place .directory

/-- Looks at all places that a path leads through. -/
def lookAlong (files : FileTree) (path : String) : IO FileTree := do
  let (files, _) ← (FileTree.names path).foldlM (fun (files, here) name => do
    let there := FileTree.enter here name
    return (← look files there, there)) (files, files.start path)
  return files

/-- Stores the file at a path if its content has changed. -/
def store (before after : FileTree) (path : String) : IO Unit := do
  let content? := (after.content path).toOption
  if content? = (before.content path).toOption then return
  match content?, after.place path with
  | some (.text text), .ok place => IO.FS.writeFile (FileTree.pathOf place) text
  | some (.database database), .ok place =>
    match database.write with
    | .ok text => IO.FS.writeFile (FileTree.pathOf place) text
    | .error error => IO.eprintln error.report.message
  | _, _ => return

/-- Looks at the files that settings name, and gives their paths. -/
def lookAround (files : FileTree) (settings : Settings) : IO (FileTree × List String) := do
  let paths := [settings.modelPath, settings.policyPath]
  let files ← paths.foldlM lookAlong files
  match (Connection.ofText? settings.databaseUrl).bind (·.path?) with
  | none => return (files, paths)
  | some path =>
    let files ← lookAlong files path
    return (files, paths ++ (files.plainPlace path).toOption.toList.map FileTree.pathOf)

def start : IO FileTree := do
  let directory := FileTree.names (← IO.currentDir).toString
  return { directory := directory.filter (· ≠ "") }

/-- Looks at the files that a call reads, and gives the paths that its settings name. -/
def survey (arguments : List String) (environment : List (String × String)) :
    IO (FileTree × List String) := do
  let files ← start
  match Invocation.ofArguments? arguments with
  | none => return (files, [])
  | some invocation =>
    let beside := Settings.besidePath? files invocation.settingsPath
    let files ← (invocation.settingsPath :: beside.toList).foldlM lookAlong files
    match Settings.load? files invocation.settingsPath environment with
    | none => return (files, [])
    | some settings => lookAround files settings

end Main
end AccessControl

open AccessControl in
def main (arguments : List String) : IO UInt32 := do
  let environment ← Main.environment
  let (before, paths) ← Main.survey arguments environment
  let (outcome, after) := Program.run arguments environment before
  paths.forM (Main.store before after)
  IO.print outcome.output
  if let some explanation := outcome.explanation? then IO.eprintln explanation
  return outcome.status.toUInt32
