import AccessControl.Storage.FileTree
/-!
Actions that change a state and may fail, where a failure does not take back what has been changed before it;
and how a file is replaced by one. A temporary file is made beside it, filled, synchronized and renamed to it.
Any of these steps can fail; then the temporary file is deleted. A rename either has its whole effect or none.
-/
namespace AccessControl

/-- What changes a state of type `σ`, and yields a value unless it fails. -/
abbrev Action (σ ε α : Type) : Type := ExceptT ε (StateM σ) α

namespace Action
variable {σ ε α : Type}

/-- The value that an action yields from a state. -/
def value (action : Action σ ε α) (state : σ) : Except ε α := (action.run state).1

/-- The value that an action yields from a state together with the state that it leads to, if it does not
fail. -/
def outcome (action : Action σ ε α) (state : σ) : Except ε (α × σ) :=
  match action.run state with
  | (.ok value, state) => .ok (value, state)
  | (.error fault, _) => .error fault

/-- The state that an action leads to from a state, if it does not fail. -/
def after (action : Action σ ε α) (state : σ) : Except ε σ :=
  match action.run state with
  | (.ok _, state) => .ok state
  | (.error fault, _) => .error fault

end Action

namespace FileTree

/-- Whether a name stays where it is. -/
def isStill (name : String) : Bool := name == "" || name == "."

/-- The directory that a path has its last name in. A path without any name is taken to have it in the
working directory, wherever the path itself leads. -/
def parentPlace (tree : FileTree) (path : String) : Except FileFault Place :=
  match (names path).reverse.dropWhile isStill with
  | [] => .ok tree.directory
  | _ :: before => tree.walk (tree.start path) (before.reverse ++ ["."])

/-- Takes a single file away. -/
def unlink (tree : FileTree) (place : Place) : FileTree :=
  { tree with entries := tree.entries.filter (·.1 != place) }

/-- A name that is longer than all others. -/
def spareName (tree : FileTree) : String :=
  String.ofList ('.' :: (tree.directory ++ tree.entries.flatMap (·.1)).flatMap String.toList)

theorem spareName_not_mem (tree : FileTree) :
    tree.spareName ∉ tree.directory ++ tree.entries.flatMap (·.1) := by
  intro known
  have shorter := (List.sublist_flatten_of_mem (List.mem_map_of_mem (f := String.toList) known)).length_le
  rw [spareName, String.toList_ofList, ← List.flatMap_def, List.length_cons] at shorter
  omega

/-- Nothing stands anywhere under the spare name. -/
theorem at?_spareName (tree : FileTree) (directory : Place) :
    tree.at? (directory ++ [tree.spareName]) = none := by
  have unknown := tree.spareName_not_mem
  rw [List.mem_append, not_or, List.mem_flatMap] at unknown
  have named : tree.spareName ∈ directory ++ [tree.spareName] := by simp
  have apart : ¬(directory ++ [tree.spareName]).isPrefixOf tree.directory = true := by
    intro inside
    exact unknown.1 ((List.isPrefixOf_iff_prefix.1 inside).subset named)
  rw [at?, if_neg apart, Option.map_eq_none_iff, List.find?_eq_none]
  intro entry inside same
  exact unknown.2 ⟨entry, inside, eq_of_beq same ▸ named⟩

end FileTree

/-- The steps in which a file is read and replaced. -/
inductive FileStep where
  | read
  | create
  | fill
  | sync
  | rename
deriving DecidableEq, Repr

/-- A disk: which steps it fails, what is in a file that could not be filled, and how it names temporary
files, which is never as something that is already there. -/
structure Disk where
  fault? : FileStep → Option FileFault
  leftover : String → Content
  temporary : FileTree → Place → String
  fresh : ∀ (tree : FileTree) (directory : Place), tree.at? (directory ++ [temporary tree directory]) = none

abbrev Filing := Action FileTree FileFault

namespace Disk

/-- The disk that fails no step. -/
def reliable : Disk where
  fault? _ := none
  leftover := .text
  temporary tree _ := tree.spareName
  fresh := FileTree.at?_spareName

def attempt (disk : Disk) (step : FileStep) : Filing Unit :=
  match disk.fault? step with
  | none => return
  | some fault => throw fault

def read (disk : Disk) (path : String) : Filing String := do
  disk.attempt .read
  (← get).read path

/-- Makes an empty temporary file in the directory of a path. -/
def create (disk : Disk) (path : String) : Filing Place := do
  disk.attempt .create
  let tree ← get
  let directory ← tree.parentPlace path
  let temporary := directory ++ [disk.temporary tree directory]
  set (tree.put temporary (.file (.text "")))
  return temporary

def fill (disk : Disk) (place : Place) (text : String) : Filing Unit :=
  match disk.fault? .fill with
  | none => modify (FileTree.put · place (.file (.text text)))
  | some fault => do
    modify (FileTree.put · place (.file (disk.leftover text)))
    throw fault

/-- Moves a file to a path, in place of the file that is there. -/
def rename (disk : Disk) (place : Place) (path : String) : Filing Unit := do
  disk.attempt .rename
  let tree ← get
  match tree.at? place with
  | some (.file content) => set (← (tree.unlink place).write path content)
  | _ => throw .notFound

/-- Makes a temporary file the one at a path, with a text in it. -/
def finish (disk : Disk) (temporary : Place) (path text : String) : Filing Unit := do
  disk.fill temporary text
  disk.attempt .sync
  disk.rename temporary path

/-- Puts a text in place of the file at a path, or makes that file. -/
def replace (disk : Disk) (path text : String) : Filing Unit := do
  let temporary ← disk.create path
  try disk.finish temporary path text
  catch fault =>
    modify (FileTree.unlink · temporary)
    throw fault

end Disk
end AccessControl
