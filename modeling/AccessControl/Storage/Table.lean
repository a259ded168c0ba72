import AccessControl.Error
/-!
The policy table: a row for each rule, with the type of the rule and six columns for its fields. The
columns that a rule does not need are empty, and the fields of a rule end at the first empty column. A row has
an id, and the rows are read in the order of their ids. All rows are replaced in one transaction.
-/
namespace AccessControl

/-- The number of columns for fields. -/
def tableColumns : Nat := 6

structure TableRow where
  type : String
  columns : Vector (Option String) tableColumns
deriving DecidableEq, Repr

namespace TableRow

def leading : List (Option String) → List String
  | some value :: rest => value :: leading rest
  | _ => []

/-- The rule that a row holds. -/
def rule (row : TableRow) : Rule := ⟨row.type, leading row.columns.toList⟩

/-- The row that holds a rule, unless the rule has too many fields. -/
def ofRule (rule : Rule) : Except Row.Fault TableRow :=
  if rule.fields.length > tableColumns then .error (.tooWide rule.type rule.fields.length tableColumns)
  else .ok ⟨rule.type, Vector.ofFn fun column => rule.fields[column]?⟩

/-- The rows that hold some rules, the first of which has the given number. -/
def ofRules (number : Nat) : List Rule → Except Error (List TableRow)
  | [] => .ok []
  | rule :: rest =>
    match ofRule rule with
    | .error fault => .error (.malformedRow number fault)
    | .ok row => (ofRules (number + 1) rest).map (row :: ·)

end TableRow

/-- A row as it stands in the policy table. -/
structure TableEntry where
  id : Nat
  row : TableRow
deriving DecidableEq, Repr

/-- The policy table: its entries in whatever order they are kept, and the largest id that has been given. -/
structure PolicyTable where
  entries : List TableEntry := []
  lastId : Nat := 0
deriving DecidableEq, Repr, Inhabited

namespace PolicyTable

/-- The rows in ascending order of their ids. -/
def rows (table : PolicyTable) : List TableRow :=
  (table.entries.mergeSort fun entry later => entry.id ≤ later.id).map (·.row)

/-- Adds rows, each with the next id. -/
def insert (table : PolicyTable) (rows : List TableRow) : PolicyTable where
  entries := table.entries ++ (rows.zipIdx (table.lastId + 1)).map fun (row, id) => ⟨id, row⟩
  lastId := table.lastId + rows.length

/-- Takes all rows away. Their ids are not given again. -/
def clear (table : PolicyTable) : PolicyTable := { table with entries := [] }

/-- The table in which some rows have been put in order, and no others ever. -/
def ofRows (rows : List TableRow) : PolicyTable := insert {} rows

instance : Coe (List TableRow) PolicyTable := ⟨ofRows⟩

end PolicyTable

/-- The steps in which the rows of the policy table are read and replaced. Rows are added in batches, which
are numbered. -/
inductive TableStep where
  | query
  | begin
  | clear
  | insert (batch : Nat)
  | commit
deriving DecidableEq, Repr

/-- A database: its policy table, or nothing when that table is gone. -/
structure Database where
  table? : Option PolicyTable := some {}
deriving DecidableEq, Repr, Inhabited

namespace Database

/-- The policy table, which must be there. -/
def table (database : Database) : Except Error PolicyTable :=
  match database.table? with
  | some table => .ok table
  | none => .error .database

/-- The rows in ascending order of their ids. -/
def rows (database : Database) : Except Error (List TableRow) := database.table.map PolicyTable.rows

def load (database : Database) : Except Error RuleSet :=
  database.rows.map fun rows => RuleSet.ofList (rows.map TableRow.rule)

/-- Adds rows, which get the next ids. -/
def insert (database : Database) (rows : List TableRow) : Except Error Database :=
  database.table.map fun table => ⟨some (table.insert rows)⟩

/-- Takes all rows away. -/
def clear (database : Database) : Except Error Database :=
  database.table.map fun table => ⟨some table.clear⟩

/-- The number of rows that are added at once. -/
def batchSize : Nat := 100

/-- Rows in batches, the first of which has some rows already. -/
def batchesFrom (batch : List TableRow) : List TableRow → List (List TableRow)
  | [] => if batch.isEmpty then [] else [batch]
  | row :: rest =>
    if batch.length = batchSize then batch :: batchesFrom [row] rest
    else batchesFrom (batch ++ [row]) rest

/-- Fails if the step does. -/
def attempt (fails : TableStep → Bool) (step : TableStep) : Except Error Unit :=
  if fails step then .error .database else .ok ()

/-- Adds batches of rows, the first of which has the given number. -/
def insertAll (fails : TableStep → Bool) (number : Nat) (draft : Database) :
    List (List TableRow) → Except Error Database
  | [] => .ok draft
  | batch :: rest => do
    attempt fails (.insert number)
    insertAll fails (number + 1) (← draft.insert batch) rest

/-- Puts rows in place of all that are there. The steps are made on a draft, which becomes the database
when it is committed and is dropped if a step fails. -/
def replaceRows (fails : TableStep → Bool) (database : Database) (rows : List TableRow) :
    Except Error Database := do
  attempt fails .begin
  attempt fails .clear
  let draft ← insertAll fails 1 (← database.clear) (batchesFrom [] rows)
  attempt fails .commit
  return draft

/-- The database with some rules in place of all that are there, when no step fails. -/
def save (database : Database) (rules : RuleSet) : Except Error Database := do
  database.replaceRows (fun _ => false) (← TableRow.ofRules 1 rules.toList)

/-- Makes the table if it is not there. -/
def migrate (database : Database) : Database := ⟨some (database.table?.getD {})⟩

def dropTable (_ : Database) : Database := ⟨none⟩

end Database
end AccessControl
