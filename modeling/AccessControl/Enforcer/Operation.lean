import AccessControl.Enforcer.Roles
import AccessControl.Model
/-!
Runs of operations on an enforcer. An operation that fails leaves the enforcer as it was, but for the
patterns that a failed decision has compiled; so a run goes on after a failure.
-/
namespace AccessControl

/-- What can be done with an enforcer. Models come as texts; rules are loaded from the enforcer's own
storage in the state that the files are in, or handed over by a storage of some other kind. -/
inductive Operation where
  | add (type : String) (fields : List String)
  | addMany (type : String) (rules : List (List String))
  | remove (type : String) (fields : List String)
  | removeFiltered (type : String) (index : Word) (values : List String)
  | addRole (user role : String) (domain? : Option String)
  | deleteRoleForUser (user role : String) (domain? : Option String)
  | deleteRoles (user : String) (domain? : Option String)
  | addPermission (user : String) (permission : List String)
  | deletePermission (user : String) (permission : List String)
  | deleteUser (user : String)
  | deleteRole (role : String)
  | loadModel (text : String)
  | loadPolicy (files : FileTree)
  | replaceRules (rules : RuleSet)
  | clear
  | decide (request : List String)

namespace Enforcer

/-- The enforcer after a change, which is the one before it if the change failed. -/
def orKeep (enforcer : Enforcer) (changed : Except Error Enforcer) : Enforcer :=
  match changed with
  | .ok after => after
  | .error _ => enforcer

/-- The enforcer after a change that also gives an answer. -/
def after {α : Type} (enforcer : Enforcer) (changed : Except Error (α × Enforcer)) : Enforcer :=
  enforcer.orKeep (changed.map (·.2))

variable [Regex.Engine]

def readModel (enforcer : Enforcer) (text : String) : Except Error Enforcer := do
  enforcer.loadModel (← (Model.ofText text).mapError .model)

/-- The enforcer after an operation. -/
def perform (enforcer : Enforcer) : Operation → Enforcer
  | .add type fields => enforcer.after (enforcer.add type fields)
  | .addMany type rules => enforcer.after (enforcer.addMany type rules)
  | .remove type fields => enforcer.after (enforcer.remove type fields)
  | .removeFiltered type index values => enforcer.after (enforcer.removeFiltered type index values)
  | .addRole user role domain? => enforcer.after (enforcer.addRole user role domain?)
  | .deleteRoleForUser user role domain? =>
    enforcer.after (enforcer.deleteRoleForUser user role domain?)
  | .deleteRoles user domain? => enforcer.after (enforcer.deleteRoles user domain?)
  | .addPermission user permission => enforcer.after (enforcer.addPermission user permission)
  | .deletePermission user permission => enforcer.after (enforcer.deletePermission user permission)
  | .deleteUser user => enforcer.after (enforcer.deleteUser user)
  | .deleteRole role => enforcer.after (enforcer.deleteRole role)
  | .loadModel text => enforcer.orKeep (enforcer.readModel text)
  | .loadPolicy files => enforcer.orKeep (enforcer.loadPolicy files)
  | .replaceRules rules => enforcer.orKeep (enforcer.replaceRules rules)
  | .clear => enforcer.clear
  | .decide request => (enforcer.decide request).2

/-- The enforcer after some operations, one after another. -/
def run (enforcer : Enforcer) (operations : List Operation) : Enforcer :=
  operations.foldl perform enforcer

/-- An enforcer that operations can lead to from a new one, which is made of the text of a model and
has any storage or none. -/
inductive Reachable : Enforcer → Prop
  | intro {text : String} {model : Model} {start : Enforcer} (read : Model.ofText text = .ok model)
      (made : Enforcer.ofModel model = .ok start) (storage? : Option Storage)
      (operations : List Operation) :
      Reachable (Enforcer.run { start with storage? } operations)

end Enforcer
end AccessControl
