import AccessControl.Enforcer
/-!
Users, roles and permissions. Links are the rules of the grouping type `g`, permissions the rules of
the policy type `p` with the subject as their first field. A domain, where one is given, is the
third field of a link.
-/
namespace AccessControl

def permissionType : String := "p"

/-- The type of links between users and roles. -/
def roleType : String := "g"

def domainField : String := "dom"

/-- Removes the links that have `name` at `index`. Without a role relation there are none. -/
def State.removeLinksOf (state : State) (name : String) (index : Word) :
    Except Error (List (List String) × State) :=
  if state.roles.has roleType then state.removeFiltered roleType index [name] else .ok ([], state)

namespace Enforcer

def linkFields (user role : String) (domain? : Option String) : List String :=
  user :: role :: domain?.toList

/-- The role relation, which is without links when the model declares none. -/
def relation (enforcer : Enforcer) : RoleRelation := (enforcer.state.roles.find? roleType).getD .empty

/-- Gives a user a role; the answer tells whether it is new. -/
def addRole (enforcer : Enforcer) (user role : String) (domain? : Option String) :
    Except Error (Bool × Enforcer) :=
  enforcer.add roleType (linkFields user role domain?)

/-- Takes a role from a user; the answer tells whether it was given. -/
def deleteRoleForUser (enforcer : Enforcer) (user role : String) (domain? : Option String) :
    Except Error (Bool × Enforcer) :=
  enforcer.remove roleType (linkFields user role domain?)

/-- Takes all direct roles from a user, in one domain or in all of them. -/
def deleteRoles (enforcer : Enforcer) (user : String) (domain? : Option String) :
    Except Error (Bool × Enforcer) :=
  enforcer.removeFiltered roleType 0 (linkFields user "" domain?)

def roles (enforcer : Enforcer) (user : String) (domain? : Option String) : List String :=
  enforcer.relation.rolesOf user domain?

def users (enforcer : Enforcer) (role : String) (domain? : Option String) : List String :=
  enforcer.relation.membersOf role domain?

def hasRole (enforcer : Enforcer) (user role : String) (domain? : Option String) : Bool :=
  (enforcer.roles user domain?).contains role

/-- The direct and inherited roles of a user, nearest first. -/
def implicitRoles (enforcer : Enforcer) (user : String) (domain? : Option String) : List String :=
  enforcer.relation.allRolesOf user domain?

/-- Gives a user a permission; the answer tells whether it is new. -/
def addPermission (enforcer : Enforcer) (user : String) (permission : List String) :
    Except Error (Bool × Enforcer) :=
  enforcer.add permissionType (user :: permission)

/-- Takes a permission from a user; the answer tells whether it was given. -/
def deletePermission (enforcer : Enforcer) (user : String) (permission : List String) :
    Except Error (Bool × Enforcer) :=
  enforcer.remove permissionType (user :: permission)

def permissions (enforcer : Enforcer) (user : String) : List (List String) :=
  enforcer.filtered permissionType 0 [user]

/-- Whether a permission is for a domain. Without a domain every permission is, and so it is when
permissions have no field for one. -/
def isForDomain (enforcer : Enforcer) (domain? : Option String) (permission : List String) : Bool :=
  match domain?, enforcer.state.compiled.model.policyIndex? permissionType domainField with
  | some domain, some index => permission[index]? == some domain
  | _, _ => true

def implicitPermissions (enforcer : Enforcer) (user : String) (domain? : Option String) :
    List (List String) :=
  let subjects := user :: enforcer.implicitRoles user domain?
  (enforcer.get permissionType).filter fun permission =>
    permission.head?.any (subjects.contains ·) && enforcer.isForDomain domain? permission

/-- Removes the links that have `name` at `index` and the permissions of `name`, all as one change.
The answer tells whether anything was removed. -/
def deleteSubject (enforcer : Enforcer) (name : String) (index : Word) : Except Error (Bool × Enforcer) :=
  enforcer.update fun state => do
    let (links, state) ← state.removeLinksOf name index
    let (permissions, state) ← state.removeFiltered permissionType 0 [name]
    return (!(links.isEmpty && permissions.isEmpty), state)

/-- Removes a user: its links to roles and its permissions. -/
def deleteUser (enforcer : Enforcer) (user : String) : Except Error (Bool × Enforcer) :=
  enforcer.deleteSubject user 0

/-- Removes a role: the links of its members and its permissions. -/
def deleteRole (enforcer : Enforcer) (role : String) : Except Error (Bool × Enforcer) :=
  enforcer.deleteSubject role 1

end Enforcer
end AccessControl
