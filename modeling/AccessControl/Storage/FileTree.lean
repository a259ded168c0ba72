import AccessControl.Storage.Table
/-!
The files below a root directory. A path is a text with slashes between its names; `.` and an empty
name stay where they are, and `..` goes up. A path that starts with a slash starts at the root, every
other one in the working directory. The names of a path add up to a place; the path leads to it if
every name but the last is that of a directory.
-/
namespace AccessControl

/-- What a file holds: text, bytes that are no text, or a database. -/
inductive Content where
  | text (value : String)
  | bytes (values : List UInt8)
  | database (value : Database)
deriving DecidableEq, Repr

inductive Entry where
  | directory
  | file (content : Content)
deriving DecidableEq, Repr

/-- A place: the names that lead to it from the root. -/
abbrev Place := List String

/-- The entries below the root, which is the place without names, and the working directory, which is
there without an entry. -/
structure FileTree where
  entries : List (Place × Entry) := []
  directory : Place := []
deriving DecidableEq, Repr, Inhabited

namespace FileTree

/-- What stands at a place, if anything does. -/
def at? (tree : FileTree) (place : Place) : Option Entry :=
  if place.isPrefixOf tree.directory then some .directory
  else (tree.entries.find? fun entry => entry.1 == place).map (·.2)

def enter (here : Place) (name : String) : Place :=
  if name = "" ∨ name = "." then here
  else if name = ".." then here.dropLast
  else here ++ [name]

def walk (tree : FileTree) (here : Place) : List String → Except FileFault Place
  | [] => .ok here
  | name :: rest =>
    match tree.at? here with
    | none => .error .notFound
    | some (.file _) => .error .notADirectory
    | some .directory => tree.walk (enter here name) rest

/-- Goes on from a place along some names, whether anything stands on the way or not. Nothing stands
below a file. -/
def follow (tree : FileTree) (here : Place) : List String → Except FileFault Place
  | [] => .ok here
  | name :: rest =>
    let there := enter here name
    match tree.at? here with
    | some (.file _) => if here.length < there.length then .error .notADirectory else tree.follow there rest
    | _ => tree.follow there rest

def names (path : String) : List String := (path.toList.splitOn '/').map String.ofList

def isAbsolute (path : String) : Bool := path.toList.head? == some '/'

def start (tree : FileTree) (path : String) : Place := if isAbsolute path then [] else tree.directory

def pathOf (place : Place) : String := "/" ++ "/".intercalate place

/-- The place that a path leads to. The empty path leads nowhere. -/
def place (tree : FileTree) (path : String) : Except FileFault Place :=
  if path = "" then .error .notFound else tree.walk (tree.start path) (names path)

/-- The place that the names of a path add up to. -/
def plainPlace (tree : FileTree) (path : String) : Except FileFault Place :=
  tree.follow (tree.start path) (names path)

def content (tree : FileTree) (path : String) : Except FileFault Content := do
  match tree.at? (← tree.place path) with
  | none => .error .notFound
  | some .directory => .error .isADirectory
  | some (.file content) => .ok content

def read (tree : FileTree) (path : String) : Except FileFault String := do
  match ← tree.content path with
  | .text value => .ok value
  | _ => .error .invalidData

def put (tree : FileTree) (place : Place) (entry : Entry) : FileTree :=
  if tree.entries.any (·.1 == place) then
    { tree with entries := tree.entries.map fun old => if old.1 = place then (place, entry) else old }
  else { tree with entries := tree.entries ++ [(place, entry)] }

/-- Replaces or makes the file at a path, in a directory that is there. A directory at the path
itself stays. -/
def write (tree : FileTree) (path : String) (content : Content) : Except FileFault FileTree := do
  let place ← tree.place path
  match tree.at? place with
  | some .directory => .error .isADirectory
  | _ => .ok (tree.put place (.file content))

def remove (tree : FileTree) (place : Place) : FileTree :=
  { tree with entries := tree.entries.filter fun entry => !place.isPrefixOf entry.1 }

/-- Makes the directories that lead on from a place along some names, those that are missing. -/
def makeDirectories (tree : FileTree) (here : Place) : List String → FileTree
  | [] => tree
  | name :: rest =>
    let there := enter here name
    let tree := if (tree.at? there).isSome then tree else tree.put there .directory
    tree.makeDirectories there rest

def putFile (tree : FileTree) (path : String) (content : Content) : FileTree :=
  let start := tree.start path
  let before := (names path).dropLast
  (tree.makeDirectories start before).put ((names path).foldl enter start) (.file content)

def count (tree : FileTree) (place : Place) : Nat :=
  (tree.entries.filter fun entry => entry.1.dropLast == place).length

end FileTree
end AccessControl
