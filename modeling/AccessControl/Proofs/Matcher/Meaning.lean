import AccessControl.Matcher.Evaluation
/-!
The meaning of matcher expressions, read off the expressions themselves. Fields are looked up by their
names, role functions in the relations of their role types, and patterns are compiled on the spot;
nothing is resolved beforehand. Of a fault only its kind is told, not its wording.
-/
namespace AccessControl

/-- What can go wrong with an expression. -/
inductive Flaw where
  /-- An operand of a connective is a string. -/
  | operand
  /-- An argument of a function is a boolean. -/
  | argument
  /-- The whole expression is a string. -/
  | result
  /-- The pattern of a test is none. -/
  | pattern
  /-- A name stands for nothing. -/
  | unbound
deriving DecidableEq, Repr

/-- What has gone wrong when an evaluation ends with a fault. -/
def Term.Fault.flaw : Term.Fault → Flaw
  | .notBoolean _ => .operand
  | .notText _ => .argument
  | .textResult _ => .result
  | .invalidPattern _ => .pattern
  | .absentField _ => .unbound

namespace Expr

def truthOf : Value → Except Flaw Bool
  | .truth value => .ok value
  | .text _ => .error .operand

def textOf : Value → Except Flaw String
  | .text value => .ok value
  | .truth _ => .error .argument

/-- The value that stands where a name is declared. -/
def named (names values : List String) (name : String) : Except Flaw Value :=
  match (names.zip values).lookup name with
  | some value => .ok (.text value)
  | none => .error .unbound

/-- The value of a path: a field of the request or of the rule, which is one of a policy type. -/
def field (model : Model) (type : String) (scope : Scope) (first : String) (more : List String) :
    Except Flaw Value :=
  match more with
  | [name] =>
    if first = "r" then named model.request scope.request name
    else if first = type then named ((model.policies.find? type).getD []) scope.rule name
    else .error .unbound
  | _ => .error .unbound

variable [Regex.Engine]

/-- The value of a call. The third argument of a role function is a domain; without a relation names
only have themselves for a role. -/
def called (model : Model) (scope : Scope) (name : String) (texts : List String) : Except Flaw Bool :=
  if model.roles.has name then
    match scope.roles.find? name, texts with
    | some relation, [member, role] => .ok (relation.reaches member role none)
    | some relation, [member, role, domain] => .ok (relation.reaches member role (some domain))
    | none, member :: role :: _ => .ok (member == role)
    | _, _ => .error .unbound
  else
    match name, texts with
    | "keyMatch", [key, pattern] => .ok (Glob.matchesText pattern key)
    | "keyMatch2", [key, pattern] => .ok (PathPattern.matchesText pattern key)
    | "regexMatch", [tested, pattern] =>
      match Regex.ofText? pattern with
      | some regex => .ok (regex.matchesText tested)
      | none => .error .pattern
    | _, _ => .error .unbound

mutual

/-- The meaning of an expression for a request and a rule of a policy type. -/
def meaning (model : Model) (type : String) (scope : Scope) : Expr → Except Flaw Value
  | .literal value => return .text value
  | .constant value => return .truth value
  | .path first more => field model type scope first more
  | .call name arguments => do
    return .truth (← called model scope name (← texts model type scope arguments))
  | .equal left right => do
    let left ← meaning model type scope left
    let right ← meaning model type scope right
    return .truth (left == right)
  | .unequal left right => do
    let left ← meaning model type scope left
    let right ← meaning model type scope right
    return .truth (left != right)
  | .and left right => do
    if ← truthOf (← meaning model type scope left) then
      return .truth (← truthOf (← meaning model type scope right))
    else return .truth false
  | .or left right => do
    if ← truthOf (← meaning model type scope left) then return .truth true
    else return .truth (← truthOf (← meaning model type scope right))
  | .not operand => return .truth (!(← truthOf (← meaning model type scope operand)))
  | .within element items => do
    let element ← meaning model type scope element
    return .truth (← occurs model type scope element items)

/-- The strings that some expressions mean, from left to right. -/
def texts (model : Model) (type : String) (scope : Scope) : List Expr → Except Flaw (List String)
  | [] => return []
  | item :: rest => do
    let text ← textOf (← meaning model type scope item)
    let later ← texts model type scope rest
    return text :: later

/-- Whether one of some expressions means a value; those after the first of them are left alone. -/
def occurs (model : Model) (type : String) (scope : Scope) (element : Value) :
    List Expr → Except Flaw Bool
  | [] => return false
  | item :: rest => do
    let found ← meaning model type scope item
    if found = element then return true
    else occurs model type scope element rest

end

/-- What an expression says of a request and a rule as a whole. -/
def decision (model : Model) (type : String) (scope : Scope) (expr : Expr) : Except Flaw Bool := do
  match ← expr.meaning model type scope with
  | .truth value => return value
  | .text _ => throw .result

end Expr
end AccessControl
