import AccessControl.Storage
import AccessControl.Storage.Address
/-!
Connections to databases, as addresses give them. A database without its table gets one when it is
opened, which fails if it may not be changed. A database in memory, or one without a name, is made when
it is opened and gone afterwards.
-/
namespace AccessControl

/-- A way to a database: the path of its file, or none to a database in memory, what it is opened for,
and whether its file is taken to be fixed. -/
structure Connection where
  path? : Option String
  access : Access
  fixed : Bool := false
deriving DecidableEq, Repr

namespace Connection

/-- The connection that an address gives. A file that is kept in memory is as good as none, and cannot
be changed either if it is fixed. -/
def ofAddress (address : Address) : Connection :=
  if address.inMemory ∨ address.name = "" ∨ address.name = Address.memoryName then
    ⟨none, address.access, false⟩
  else if address.layer? = some Address.memoryLayer then ⟨none, address.access, address.fixed⟩
  else ⟨some address.name, address.access, address.fixed⟩

def ofText? (address : String) : Option Connection := (Address.ofText? address).map ofAddress

/-- Whether the database may be changed. -/
def isWritable (connection : Connection) : Bool := connection.access != .read && !connection.fixed

/-- The place of the database. One in memory stands in the working directory as long as it is open. -/
def place (connection : Connection) (files : FileTree) : Except Error Place :=
  match connection.path? with
  | none => .ok (files.directory ++ [Address.memoryName])
  | some path => (files.plainPlace path).mapError fun _ => .database

def emptyContent : Content := .text ""

/-- The database in a file. A file of one byte at most is a database without its table. -/
def databaseIn? : Content → Option Database
  | .database database => some database
  | .text value => if value.utf8ByteSize ≤ 1 then some ⟨none⟩ else none
  | .bytes values => if values.length ≤ 1 then some ⟨none⟩ else none

/-- The files with the file of the database in them. A missing file is made if that is what the
connection is for and its directory is there. -/
def provide (connection : Connection) (files : FileTree) : Except Error FileTree := do
  let place ← connection.place files
  if connection.path?.isNone then return files.put place (.file emptyContent)
  match files.at? place with
  | some (.file _) => .ok files
  | some .directory => .error .database
  | none =>
    if connection.access = .make ∧ files.at? place.dropLast = some .directory then
      return files.put place (.file emptyContent)
    else .error .database

/-- Where the policy is kept while the database is open, and the files with the table in it. -/
def openIn (connection : Connection) (files : FileTree) : Except Error (Storage × FileTree) := do
  let place ← connection.place files
  match files.at? place with
  | some (.file content) =>
    match databaseIn? content with
    | none => .error .database
    | some database =>
      let storage := Storage.database (FileTree.pathOf place)
      if database.table?.isSome then return (storage, files)
      else if connection.isWritable then
        return (storage, files.put place (.file (.database database.migrate)))
      else .error .database
  | _ => .error .database

/-- The files when the database is closed, given those before it was opened and those after its use. -/
def close (connection : Connection) (before after : FileTree) : FileTree :=
  if connection.path?.isNone then before else after

end Connection
end AccessControl
