import AccessControl.Enforcer.Roles
import AccessControl.Text.Json
/-!
Commands on a stored policy. A command is a call on an enforcer; run on its own it loads the policy,
makes the call, and saves the policy if and only if the call has changed it.
-/
namespace AccessControl

inductive Command where
  | enforce (request : List String) (explain json : Bool)
  | addPolicy (type : String) (fields : List String)
  | removePolicy (type : String) (fields : List String)
  | addRole (user role : String) (domain? : Option String)
  | deleteRole (user role : String) (domain? : Option String)
  | roles (user : String) (domain? : Option String) (implicit : Bool)
  | list (type? : Option String)
deriving DecidableEq, Repr

/-- What a command answers: the lines that it prints, and whether it has changed the policy. -/
structure Reply where
  output : List String := []
  changed : Bool := false
deriving DecidableEq, Repr

def Rule.json (rule : Rule) : Text.Json :=
  .record [("ptype", .text rule.type), ("fields", .list (rule.fields.map .text))]

def Verdict.json (verdict : Verdict) : Text.Json :=
  .record [("allowed", .boolean verdict.allowed),
    ("explain", .list (verdict.decidedBy?.toList.map Rule.json))]

/-- The lines that show a verdict, with the rule that made it if that is asked for. -/
def Verdict.lines (verdict : Verdict) (explain : Bool) : List String :=
  let decision := if verdict.allowed then "allow" else "deny"
  if explain then decision :: verdict.decidedBy?.toList.map fun rule => "  " ++ rule.text
  else [decision]

namespace Command

def reply (change : Except Error (Bool × Enforcer)) : Except Error (Reply × Enforcer) :=
  change.map fun (changed, enforcer) => ({ changed }, enforcer)

def perform [Regex.Engine] (enforcer : Enforcer) : Command → Except Error (Reply × Enforcer)
  | enforce request explain json => do
    let verdict ← enforcer.enforce request
    let output := if json then [verdict.json.write] else verdict.lines explain
    return ({ output }, enforcer)
  | addPolicy type fields => reply (enforcer.add type fields)
  | removePolicy type fields => reply (enforcer.remove type fields)
  | addRole user role domain? => reply (enforcer.addRole user role domain?)
  | deleteRole user role domain? => reply (enforcer.deleteRoleForUser user role domain?)
  | roles user domain? implicit =>
    let output := if implicit then enforcer.implicitRoles user domain? else enforcer.roles user domain?
    .ok ({ output }, enforcer)
  | list type? =>
    let rules := enforcer.rules.toList.filter fun rule => type?.all (· == rule.type)
    .ok ({ output := rules.map Rule.text }, enforcer)

/-- Runs a command on a stored policy: the lines that it prints, and the files after it. -/
def run [Regex.Engine] (command : Command) (model : Model) (storage : Storage) (files : FileTree) :
    Except Error (List String × FileTree) := do
  let (reply, enforcer) ← command.perform (← Enforcer.withStorage model storage files)
  if reply.changed then return (reply.output, ← enforcer.savePolicy files)
  else return (reply.output, files)

end Command
end AccessControl
