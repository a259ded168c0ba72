import AccessControl.PolicyText
import AccessControl.Store.RuleIndex
/-!
The store of rules. It knows the types that a model declares and, for each, how many fields a rule
has and where its effect stands. The rules of a type are kept in the order of their insertion, none
of them twice, and beside them an index that tells which rules are present.
-/
namespace AccessControl

/-- The rules of one type, with what the model declares about them. -/
structure RuleTable where
  arity : Nat
  effectIndex? : Option Nat
  rules : List (List String) := []
  index : RuleIndex := .empty
deriving Inhabited

namespace RuleTable

/-- Accepts the fields of a rule if they are as many as declared, none breaks a line, and the effect
is a word for one. -/
def validate (table : RuleTable) (type : String) (fields : List String) : Except Error Unit :=
  if fields.length ≠ table.arity then .error (.ruleArity type table.arity fields.length)
  else
    match PolicyText.breakingField? fields with
    | some index => .error (.lineBreak type index)
    | none =>
      match table.effectIndex?.bind (fields[·]?) with
      | none => .ok ()
      | some word => if (Effect.ofText? word).isSome then .ok () else .error (.effectValue word)

/-- Adds a rule after the others. -/
def insert (table : RuleTable) (fields : List String) : RuleTable :=
  { table with rules := table.rules ++ [fields], index := table.index.insert fields }

def erase (table : RuleTable) (fields : List String) : RuleTable :=
  { table with rules := table.rules.filter (· != fields), index := table.index.erase fields }

end RuleTable

/-- A place as the machine counts it. After the last of them comes the first. -/
abbrev Word : Type := BitVec 64

/-- Whether the fields of a rule from `index` on are the given values. An empty value says nothing
about its field, which then need not even be there. -/
def fieldsMatch (fields : List String) (index : Word) : (values : List String) → Bool
  | [] => true
  | value :: rest =>
    (value.isEmpty || fields[index.toNat]? == some value) && fieldsMatch fields (index + 1) rest

/-- Removes the rules whose fields from `index` on are the given values. -/
def RuleTable.eraseMatching (table : RuleTable) (index : Word) (values : List String) : RuleTable :=
  { table with
    rules := table.rules.filter (!fieldsMatch · index values)
    index := (table.rules.filter (fieldsMatch · index values)).foldl RuleIndex.erase table.index }

structure Store where
  tables : Catalogue RuleTable := .empty
deriving Inhabited

namespace Store

/-- The store without types. -/
def empty : Store := {}

/-- The store without rules for the types of a model. Every policy type and every role relation is a
type, and no two have the same name. -/
def ofModel (model : Model) : Store where
  tables := Catalogue.ofList <|
    (model.policies.map fun type fields =>
      ({ arity := fields.length, effectIndex? := model.effectIndex? type } : RuleTable)).entries ++
    (model.roles.map fun _ shape =>
      ({ arity := shape.arity, effectIndex? := none } : RuleTable)).entries

/-- The table of a type, which must be known. -/
def table (store : Store) (type : String) : Except Error RuleTable :=
  match store.tables.find? type with
  | some table => .ok table
  | none => .error (.unknownType type)

/-- The rules of a type in the order of their insertion; none for an unknown type. -/
def rules (store : Store) (type : String) : List (List String) :=
  ((store.tables.find? type).map (·.rules)).getD []

def has (store : Store) (type : String) (fields : List String) : Bool :=
  (store.tables.find? type).any (·.index.has fields)

def withTable (store : Store) (type : String) (change : RuleTable → RuleTable) : Store :=
  ⟨store.tables.modify type change⟩

def validate (store : Store) (type : String) (fields : List String) : Except Error Unit := do
  (← store.table type).validate type fields

/-- Adds a rule after those of its type; the answer tells whether it is new. -/
def add (store : Store) (type : String) (fields : List String) : Except Error (Bool × Store) := do
  store.validate type fields
  if store.has type fields then return (false, store)
  else return (true, store.withTable type (·.insert fields))

/-- Removes a rule; the answer tells whether there was one. -/
def remove (store : Store) (type : String) (fields : List String) : Except Error (Bool × Store) := do
  let _ ← store.table type
  if store.has type fields then return (true, store.withTable type (·.erase fields))
  else return (false, store)

/-- The rules of a type whose fields from `index` on are the given values. -/
def filtered (store : Store) (type : String) (index : Word) (values : List String) : List (List String) :=
  (store.rules type).filter (fieldsMatch · index values)

/-- Removes the rules whose fields from `index` on are the given values; they are the answer. -/
def removeFiltered (store : Store) (type : String) (index : Word) (values : List String) :
    Except Error (List (List String) × Store) := do
  let _ ← store.table type
  let removed := store.filtered type index values
  if removed.isEmpty then return ([], store)
  else return (removed, store.withTable type (·.eraseMatching index values))

/-- The known types in order. -/
def types (store : Store) : List String := store.tables.names

def size (store : Store) : Nat :=
  store.tables.entries.foldl (fun count (_, table) => count + table.rules.length) 0

/-- Whether there is no rule. -/
def isEmpty (store : Store) : Bool := store.size == 0

/-- All rules, the types in order. -/
def ruleSet (store : Store) : RuleSet :=
  RuleSet.ofList (store.tables.entries.flatMap fun (type, table) => table.rules.map (Rule.mk type))

end Store
end AccessControl
