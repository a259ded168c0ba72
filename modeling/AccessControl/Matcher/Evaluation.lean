import AccessControl.Matcher
import AccessControl.Pattern.Glob
import AccessControl.Pattern.PatternCache
import AccessControl.Roles
/-!
Evaluation of matchers. A matcher is evaluated for one request and one rule; it yields a boolean or
the first fault from left to right. The connectives leave their right side alone when the left one
decides, and a membership test stops at the first equal item. Patterns that come up on the way are
compiled through a cache, which outlives the evaluation even when it ends with a fault.
-/
namespace AccessControl

inductive Value where
  | text (value : String)
  | truth (value : Bool)
deriving DecidableEq, Repr

/-- What a matcher is evaluated on. A relation that is absent here links each name to itself. -/
structure Scope where
  request : List String
  rule : List String
  roles : Catalogue RoleRelation

namespace Term

inductive Fault where
  | notBoolean (operator : String)
  | notText (function : String)
  | textResult (value : String)
  | invalidPattern (pattern : String)
  | absentField (index : Nat)
deriving DecidableEq, Repr

/-- What yields a value or a fault while it fills a cache of patterns. -/
abbrev Evaluation := ExceptT Fault (StateM PatternCache)

def truthOf (operator : String) : Value → Except Fault Bool
  | .truth value => .ok value
  | .text _ => .error (.notBoolean operator)

def textOf (function : String) : Value → Except Fault String
  | .text value => .ok value
  | .truth _ => .error (.notText function)

def fieldAt (fields : List String) (index : Nat) : Except Fault Value :=
  match fields[index]? with
  | some field => .ok (.text field)
  | none => .error (.absentField index)

/-- Whether a relation links a member to a role. -/
def isLinked (scope : Scope) (relation member role : String) (domain? : Option String) : Bool :=
  match scope.roles.find? relation with
  | some links => links.reaches member role domain?
  | none => member == role

variable [Regex.Engine]

/-- The value of a regular expression test whose pattern is not known beforehand. -/
def fitsPattern (value pattern : String) : Evaluation Bool := fun cache =>
  match cache.fits? value pattern with
  | (some answer, after) => (.ok answer, after)
  | (none, after) => (.error (.invalidPattern pattern), after)

def apply (function : Builtin) (left right : String) : Evaluation Bool :=
  match function with
  | .keyMatch => return Glob.matchesText right left
  | .keyMatch2 => return PathPattern.matchesText right left
  | .regexMatch => fitsPattern left right

mutual

def eval (scope : Scope) : Term → Evaluation Value
  | .text value => return .text value
  | .truth value => return .truth value
  | .requestField index => fieldAt scope.request index
  | .policyField index => fieldAt scope.rule index
  | .linked relation member role => do
    let member ← textOf relation (← eval scope member)
    let role ← textOf relation (← eval scope role)
    return .truth (isLinked scope relation member role none)
  | .linkedIn relation member role domain => do
    let member ← textOf relation (← eval scope member)
    let role ← textOf relation (← eval scope role)
    let domain ← textOf relation (← eval scope domain)
    return .truth (isLinked scope relation member role (some domain))
  | .builtin function left right => do
    let left ← textOf "function" (← eval scope left)
    let right ← textOf "function" (← eval scope right)
    return .truth (← apply function left right)
  | .fits value regex => do
    return .truth (regex.matchesText (← textOf "regexMatch" (← eval scope value)))
  | .equal left right => return .truth ((← eval scope left) == (← eval scope right))
  | .unequal left right => return .truth ((← eval scope left) != (← eval scope right))
  | .and left right => do
    if ← truthOf "&&" (← eval scope left) then
      return .truth (← truthOf "&&" (← eval scope right))
    else return .truth false
  | .or left right => do
    if ← truthOf "||" (← eval scope left) then return .truth true
    else return .truth (← truthOf "||" (← eval scope right))
  | .not operand => return .truth (!(← truthOf "!" (← eval scope operand)))
  | .within element items => do
    let value ← eval scope element
    return .truth (← evalWithin scope value items)

/-- Whether a value is among the values of some terms, which are evaluated up to the first hit. -/
def evalWithin (scope : Scope) (value : Value) : List Term → Evaluation Bool
  | [] => return false
  | item :: rest => do
    if (← eval scope item) = value then return true
    else evalWithin scope value rest

end

end Term

namespace Matcher
variable [Regex.Engine]

def run (matcher : Matcher) (scope : Scope) : Term.Evaluation Bool := do
  match ← matcher.root.eval scope with
  | .truth value => return value
  | .text value => throw (.textResult value)

/-- Whether a rule matches a request, no pattern being compiled beforehand. -/
def eval (matcher : Matcher) (scope : Scope) : Except Term.Fault Bool :=
  ((matcher.run scope).run PatternCache.empty).1

end Matcher
end AccessControl
