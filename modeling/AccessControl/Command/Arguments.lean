import AccessControl.Command
/-!
The arguments of the program: the path of its settings, then the name of a command with its options
and values in any order. Each option may be given once. A word with a dash in front is an option,
unless it is a dash alone or stands after two dashes.
-/
namespace AccessControl

inductive Task where
  | migrate
  | command (command : Command)
deriving DecidableEq, Repr

structure Invocation where
  settingsPath : String := "config.toml"
  task : Task
deriving DecidableEq, Repr

/-- What a command takes: options with a value, options without, and values, any number of them or a
fixed one. -/
structure Form where
  options : List String := []
  flags : List String := []
  count? : Option Nat := none

structure Given where
  options : List (String × String) := []
  flags : List String := []
  values : List String := []

namespace Given

def option? (given : Given) (name : String) : Option String :=
  (given.options.find? fun entry => entry.1 == name).map (·.2)

/-- Whether a word is a value where options are read. -/
def isValue (word : String) : Bool := word == "-" || word.toList.head? != some '-'

/-- The name after two dashes, and the value after the first equals sign. -/
def cutOption? (word : String) : Option (String × Option String) :=
  match word.toList with
  | '-' :: '-' :: rest =>
    let name := rest.takeWhile (· != '=')
    some (String.ofList name,
      if name.length < rest.length then some (String.ofList (rest.drop (name.length + 1))) else none)
  | _ => none

/-- Adds an option that is not given yet. -/
def giveOption (given : Given) (form : Form) (name value : String) : Option Given := do
  guard (form.options.contains name && (given.option? name).isNone)
  return { given with options := given.options ++ [(name, value)] }

/-- Adds an option without value that is not given yet. -/
def giveFlag (given : Given) (form : Form) (name : String) : Option Given := do
  guard (form.flags.contains name && !given.flags.contains name)
  return { given with flags := given.flags ++ [name] }

/-- Reads the words after the name of a command. -/
def read (form : Form) (given : Given) : List String → Option Given
  | [] => some given
  | word :: rest =>
    if word = "--" then some { given with values := given.values ++ rest }
    else if isValue word then read form { given with values := given.values ++ [word] } rest
    else
      match cutOption? word with
      | none => none
      | some (name, some value) => do read form (← given.giveOption form name value) rest
      | some (name, none) =>
        if form.flags.contains name then do read form (← given.giveFlag form name) rest
        else
          match rest with
          | value :: rest =>
            if isValue value then do read form (← given.giveOption form name value) rest else none
          | [] => none

/-- Whether there are as many values as a command takes, at least one where it takes any number. -/
def isComplete (form : Form) (given : Given) : Bool :=
  match form.count? with
  | some count => given.values.length == count
  | none => !given.values.isEmpty

end Given

namespace Task

/-- The type of the rules that are added and removed when none is given. -/
def ruleType (given : Given) : String := (given.option? "ptype").getD permissionType

abbrev Maker := Given → Task

def ofName? : (name : String) → Option (Form × Maker)
  | "enforce" => some ({ flags := ["explain", "json"] }, fun given =>
      .command (.enforce given.values (given.flags.contains "explain") (given.flags.contains "json")))
  | "add-policy" => some ({ options := ["ptype"] }, fun given =>
      .command (.addPolicy (ruleType given) given.values))
  | "remove-policy" => some ({ options := ["ptype"] }, fun given =>
      .command (.removePolicy (ruleType given) given.values))
  | "add-role" => some ({ options := ["domain"], count? := some 2 }, fun given =>
      .command (.addRole (given.values.getD 0 "") (given.values.getD 1 "") (given.option? "domain")))
  | "delete-role" => some ({ options := ["domain"], count? := some 2 }, fun given =>
      .command (.deleteRole (given.values.getD 0 "") (given.values.getD 1 "") (given.option? "domain")))
  | "roles" => some ({ options := ["domain"], flags := ["implicit"], count? := some 1 }, fun given =>
      .command (.roles (given.values.getD 0 "") (given.option? "domain")
        (given.flags.contains "implicit")))
  | "list" => some ({ options := ["ptype"], count? := some 0 }, fun given =>
      .command (.list (given.option? "ptype")))
  | "migrate" => some ({ count? := some 0 }, fun _ => .migrate)
  | _ => none

/-- The task of a command with the words after its name. -/
def ofWords? (name : String) (words : List String) : Option Task := do
  let (form, make) ← ofName? name
  let given ← Given.read form {} words
  guard (given.isComplete form)
  return make given

end Task

namespace Invocation

/-- The path of the settings when it stands in one word with its option. -/
def attachedPath? (word : String) : Option String :=
  match word.toList with
  | '-' :: 'c' :: '=' :: path => some (String.ofList path)
  | '-' :: 'c' :: path => some (String.ofList path)
  | _ =>
    match Given.cutOption? word with
    | some ("config", path?) => path?
    | _ => none

def isPathOption (word : String) : Bool := word == "-c" || word == "--config"

/-- Reads arguments, the path of the settings being given already or not. -/
def read (path? : Option String) : List String → Option Invocation
  | [] => none
  | word :: rest =>
    if isPathOption word then
      match rest with
      | path :: rest => if Given.isValue path && path?.isNone then read (some path) rest else none
      | [] => none
    else
      match attachedPath? word with
      | some path => if path?.isNone then read (some path) rest else none
      | none => do
        let task ← Task.ofWords? word rest
        return match path? with
          | some settingsPath => { settingsPath, task }
          | none => { task }

def ofArguments? (arguments : List String) : Option Invocation := read none arguments

end Invocation
end AccessControl
