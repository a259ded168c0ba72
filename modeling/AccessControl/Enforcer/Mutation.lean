import AccessControl.Enforcer.Operation
/-!
The calls that change the rules or the model, as they are carried out. A call works on a copy of the state,
step by step, and a step that fails leaves in the copy what the steps before it have done. Only when all
steps have succeeded does the copy take the place of the state; otherwise it is dropped.
-/
namespace AccessControl

/-- Steps that change a state in place. -/
abbrev Editing (α : Type) : Type := Action State Error α

namespace State

/-- Changes the store in place. -/
def editStore {α : Type} (change : Store → Except Error (α × Store)) : Editing α := do
  let (answer, store) ← liftM (change (← get).store)
  modify ({ · with store })
  return answer

/-- Changes the role relation of a grouping type in place. -/
def editRelation (type : String) (change : RoleRelation → RoleRelation) : Editing PUnit := do
  let state ← liftM ((← get).withRelation type change)
  set state

/-- Adds a rule, then its link if it is a grouping rule; the answer tells whether it is new. -/
def insertRule (type : String) (fields : List String) : Editing Bool := do
  let added ← editStore (·.add type fields)
  if added && isGroupingType type then editRelation type (addLink fields)
  return added

/-- Adds rules of one type in order; the answer tells whether any of them, or any before, is new. -/
def insertRules (type : String) (added : Bool) : List (List String) → Editing Bool
  | [] => return added
  | fields :: rest => do
    let isNew ← insertRule type fields
    insertRules type (added || isNew) rest

/-- Removes a rule, then its link if it is a grouping rule; the answer tells whether there was one. -/
def eraseRule (type : String) (fields : List String) : Editing Bool := do
  let removed ← editStore (·.remove type fields)
  if removed && isGroupingType type then editRelation type (removeLink fields)
  return removed

/-- Removes the rules of a type whose fields from `index` on are the given values, then their links; the
removed rules are the answer. -/
def eraseMatching (type : String) (index : Word) (values : List String) :
    Editing (List (List String)) := do
  let removed ← editStore (·.removeFiltered type index values)
  if isGroupingType type && !removed.isEmpty then
    editRelation type fun relation =>
      removed.foldl (fun relation fields => removeLink fields relation) relation
  return removed

/-- Removes the links that have `name` at `index`; the answer is how many there were. Without a role
relation there are none. -/
def eraseLinksOf (name : String) (index : Word) : Editing Nat := do
  if (← get).roles.has roleType then
    let links ← eraseMatching roleType index [name]
    return links.length
  else return 0

/-- Removes the links that have `name` at `index`, then the permissions of `name`; the answer is how many
there were of each. -/
def eraseSubject (name : String) (index : Word) : Editing (Nat × Nat) := do
  let links ← eraseLinksOf name index
  let permissions ← eraseMatching permissionType 0 [name]
  return (links, permissions.length)

/-- Puts the state that a compiled model makes up with the present rules in place of the present one. -/
def rebuild (compiled : CompiledModel) : Editing PUnit := do
  let rules := (← get).store.ruleSet
  let state ← liftM (ofRules compiled rules)
  set state

end State

/-- Makes a change on a copy of the state, and puts the copy in its place if the change has succeeded. -/
def Editing.onCopy {α : Type} (change : Editing α) : Action Enforcer Error α := do
  let (result, state) := change.run (← get).state
  let answer ← liftM result
  modify ({ · with state })
  return answer

/-- Compiles a model, and then puts it in place of the present one. -/
def Enforcer.putModel [Regex.Engine] (model : Model) : Action Enforcer Error PUnit := do
  let compiled ← liftM (CompiledModel.compile model)
  (State.rebuild compiled).onCopy
  modify ({ · with patterns := .empty })

/-- A call that adds or removes rules. It tells whether it has changed anything, or fails. -/
abbrev Mutation : Type := Action Enforcer Error Bool

namespace Mutation

def add (type : String) (fields : List String) : Mutation := (State.insertRule type fields).onCopy

def addMany (type : String) (rules : List (List String)) : Mutation :=
  (State.insertRules type false rules).onCopy

def remove (type : String) (fields : List String) : Mutation := (State.eraseRule type fields).onCopy

def removeFiltered (type : String) (index : Word) (values : List String) : Mutation := do
  let removed ← (State.eraseMatching type index values).onCopy
  return !removed.isEmpty

def deleteSubject (name : String) (index : Word) : Mutation := do
  let (links, permissions) ← (State.eraseSubject name index).onCopy
  return decide (0 < links + permissions)

/-- The call that an operation stands for, if it is one of those that add or remove rules. -/
def ofOperation? : Operation → Option Mutation
  | .add type fields => some (add type fields)
  | .addMany type rules => some (addMany type rules)
  | .remove type fields => some (remove type fields)
  | .removeFiltered type index values => some (removeFiltered type index values)
  | .addRole user role domain? => some (add roleType (Enforcer.linkFields user role domain?))
  | .deleteRoleForUser user role domain? => some (remove roleType (Enforcer.linkFields user role domain?))
  | .deleteRoles user domain? => some (removeFiltered roleType 0 (Enforcer.linkFields user "" domain?))
  | .addPermission user permission => some (add permissionType (user :: permission))
  | .deletePermission user permission => some (remove permissionType (user :: permission))
  | .deleteUser user => some (deleteSubject user 0)
  | .deleteRole role => some (deleteSubject role 1)
  | .loadModel _ | .loadPolicy _ | .replaceRules _ | .clear | .decide _ => none

end Mutation
end AccessControl
