import AccessControl.PolicyText
import AccessControl.Storage.Replacement
/-!
Where a policy is kept: in a policy text, or in the table of a database, each being a file. Loading
gives the whole rule set that is kept there; saving puts a rule set in place of all that was there,
or changes nothing. Both rely on a platform, which can fail any of their steps.
-/
namespace AccessControl

/-- The place where a policy is kept, by the path of its file. -/
inductive Storage where
  | text (path : String)
  | database (path : String)
deriving DecidableEq, Repr

/-- What storages rely on: a disk, and which steps the databases fail. -/
structure Platform where
  disk : Disk
  fails : TableStep → Bool

/-- The platform that fails no step. -/
def Platform.reliable : Platform where
  disk := .reliable
  fails _ := false

abbrev Storing := Action FileTree Error

namespace Storage

/-- The path of the file. -/
def path : Storage → String
  | .text path => path
  | .database path => path

/-- The database at a path. A file that is none cannot be opened as one. -/
def databaseAt (files : FileTree) (path : String) : Except Error Database :=
  match files.content path with
  | .ok (.database content) => .ok content
  | _ => .error .database

def loadOn (platform : Platform) : Storage → Storing RuleSet
  | .text path => do PolicyText.read (← (platform.disk.read path).adapt (.storage path))
  | .database path => do
    let database ← databaseAt (← get) path
    Database.attempt platform.fails .query
    database.load

/-- Puts a rule set in place of the one that is kept. -/
def saveOn (platform : Platform) (rules : RuleSet) : Storage → Storing Unit
  | .text path => do
    (platform.disk.replace path (← PolicyText.write rules)).adapt (.storage path)
  | .database path => do
    let rows ← TableRow.ofRules 1 rules.toList
    let files ← get
    let replaced ← (← databaseAt files path).replaceRows platform.fails rows
    let after ← (files.write path (.database replaced)).mapError fun _ => Error.database
    set after

def load (storage : Storage) (files : FileTree) : Except Error RuleSet :=
  (storage.loadOn .reliable).value files

/-- The files after a rule set has been put in place of the one that is kept. -/
def save (storage : Storage) (files : FileTree) (rules : RuleSet) : Except Error FileTree :=
  (storage.saveOn .reliable rules).after files

end Storage
end AccessControl
