/-!
TOML documents as values, and the rules by which the definitions of a document make up tables. A table
with a header is defined once; a table that only leads to others may still get a header; a table that
dotted keys make takes no header and no plain keys from elsewhere.
-/
namespace AccessControl.Toml

/-- A value. Numbers with a fraction and points in time are kept as their texts. -/
inductive Value where
  | text (value : String)
  | integer (value : Int)
  | number (value : String)
  | time (value : String)
  | boolean (value : Bool)
  | array (items : List Value)
  | table (entries : List (String × Value))
deriving Repr, Inhabited

/-- A table that is being made up, an array of such tables, or a finished value. -/
inductive Node where
  | value (value : Value)
  | table (implicit dotted : Bool) (entries : List (String × Node))
  | tables (elements : List (List (String × Node)))
deriving Inhabited

abbrev Entries := List (String × Node)

namespace Entries

def find? (entries : Entries) (key : String) : Option Node :=
  (List.find? (fun entry => entry.1 == key) entries).map (·.2)

/-- Puts an entry over an earlier one of the same key, or at the end. -/
def put (entries : Entries) (key : String) (node : Node) : Entries :=
  if (entries.find? key).isSome then
    List.map (fun entry => if entry.1 = key then (key, node) else entry) entries
  else entries ++ [(key, node)]

/-- Puts an entry at the end, in place of an earlier one of the same key. -/
def putLast (entries : Entries) (key : String) (node : Node) : Entries :=
  List.filter (fun entry => entry.1 != key) entries ++ [(key, node)]

/-- Changes the table that some keys lead to, making the tables on the way that are missing. The
change is also told whether dotted keys made the table. With `dotted`, the keys stand before a value
and may not lead into a table that has a header. -/
def change (dotted : Bool) (update : Bool → Entries → Option Entries) (isDotted : Bool)
    (entries : Entries) : (path : List String) → Option Entries
  | [] => update isDotted entries
  | key :: path =>
    match entries.find? key with
    | none => do
      let inner ← change dotted update dotted [] path
      return entries.put key (.table true dotted inner)
    | some (.value _) => none
    | some (.table implicit inDotted inner) => do
      if dotted && !implicit then none
      let inner ← change dotted update inDotted inner path
      return entries.put key (.table implicit inDotted inner)
    | some (.tables elements) => do
      let last ← elements.getLast?
      let last ← change dotted update false last path
      return entries.put key (.tables (elements.dropLast ++ [last]))

/-- Adds a value under dotted keys, the last of which must be new in its table. -/
def define (value : Value) (entries : Entries) (path : List String) : Option Entries := do
  let key ← path.getLast?
  let before := path.dropLast
  change true (fun isDotted table =>
    if isDotted == before.isEmpty || (table.find? key).isSome then none
    else some (table.put key (.value value))) false entries before

/-- Enters a table by its header, which becomes the last of its entries. -/
def openTable (entries : Entries) (path : List String) : Option Entries := do
  let key ← path.getLast?
  change false (fun _ table =>
    match table.find? key with
    | none => some (table.putLast key (.table false false []))
    | some (.table true false inner) => some (table.putLast key (.table false false inner))
    | some _ => none) false entries path.dropLast

/-- Enters a new element of an array of tables by its header. -/
def openElement (entries : Entries) (path : List String) : Option Entries := do
  let key ← path.getLast?
  change false (fun _ table =>
    match table.find? key with
    | none => some (table.put key (.tables [[]]))
    | some (.tables elements) => some (table.put key (.tables (elements ++ [[]])))
    | some _ => none) false entries path.dropLast

/-- Adds a value under dotted keys to the table that a header entered. -/
def defineUnder (header : List String) (value : Value) (entries : Entries) (path : List String) :
    Option Entries :=
  change false (fun _ table => table.define value path) false entries header

end Entries

mutual

def Node.finish : Node → Value
  | .value value => value
  | .table _ _ entries => .table (finishEntries entries)
  | .tables elements => .array (finishTables elements)

def finishEntries : List (String × Node) → List (String × Value)
  | [] => []
  | (key, node) :: rest => (key, node.finish) :: finishEntries rest

def finishTables : List (List (String × Node)) → List Value
  | [] => []
  | entries :: rest => .table (finishEntries entries) :: finishTables rest

end

end AccessControl.Toml
