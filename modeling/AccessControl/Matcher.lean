import AccessControl.Matcher.Expr
import AccessControl.Model
import AccessControl.Pattern.PatternCache
/-!
Matchers: expressions bound to a model. Binding turns each field reference into its place, each call
into the relation or function that it names, and a literal regular expression into its compiled
form. All paths of one expression that start with a policy type must start with the same one; the
matcher is for the rules of that type.
-/
namespace AccessControl

/-- The functions that every model has. -/
inductive Builtin where
  | keyMatch
  | keyMatch2
  | regexMatch
deriving DecidableEq, Repr

def Builtin.ofName? (name : String) : Option Builtin :=
  match name with
  | "keyMatch" => some keyMatch
  | "keyMatch2" => some keyMatch2
  | "regexMatch" => some regexMatch
  | _ => none

/-- An expression with its names resolved. -/
inductive Term where
  | text (value : String)
  | truth (value : Bool)
  | requestField (index : Nat)
  | policyField (index : Nat)
  | linked (relation : String) (member role : Term)
  | linkedIn (relation : String) (member role domain : Term)
  | builtin (function : Builtin) (left right : Term)
  | fits (value : Term) (regex : Regex)
  | equal (left right : Term)
  | unequal (left right : Term)
  | and (left right : Term)
  | or (left right : Term)
  | not (operand : Term)
  | within (element : Term) (items : List Term)

instance : Inhabited Term := ⟨.truth false⟩

/-- A bound matcher, and the policy type whose rules it is for. -/
structure Matcher where
  root : Term
  type : String
deriving Inhabited

namespace Expr

mutual

/-- The first segments of the paths of an expression, in order. -/
def scopes : Expr → List String
  | .literal _ | .constant _ => []
  | .path first _ => [first]
  | .call _ arguments => scopesAll arguments
  | .equal left right | .unequal left right | .and left right | .or left right =>
    scopes left ++ scopes right
  | .not operand => scopes operand
  | .within element items => scopes element ++ scopesAll items

/-- The first segments of the paths of some expressions, in order. -/
def scopesAll : List Expr → List String
  | [] => []
  | expr :: rest => scopes expr ++ scopesAll rest

end

end Expr

namespace Matcher

inductive Fault where
  | tokens (fault : Token.Fault)
  | grammar (fault : Expr.Fault)
  | noPolicyType
  | severalTypes (types : List String)
  | notField (segments : List String)
  | unknownRequestField (field : String)
  | unknownPolicyField (type field : String)
  | unknownIdentifier (scope field : String)
  | roleArity (function : String) (declared given : Nat)
  | builtinArity (function : String)
  | undefinedFunction (function : String)
  | invalidPattern (pattern : String)
deriving DecidableEq, Repr

/-- The name that the request has in matchers. -/
def requestScope : String := "r"

def parse (text : String) : Except Fault Expr := do
  let tokens ← (Token.ofText text.toList).mapError .tokens
  (Expr.ofTokens tokens).mapError .grammar

/-- The policy type that an expression is about: the one it mentions, or else the first. -/
def typeOf (model : Model) (expr : Expr) : Except Fault String :=
  match (expr.scopes.filter model.policies.has).eraseDups with
  | [] =>
    match model.policies.names.head? with
    | some type => .ok type
    | none => .error .noPolicyType
  | [type] => .ok type
  | types => .error (.severalTypes types)

/-- Resolves a path, which must be a field of the request or of the policy type. -/
def bindPath (model : Model) (type : String) (scope : String) (more : List String) : Except Fault Term :=
  match more with
  | [field] =>
    if scope = requestScope then
      match model.requestIndex? field with
      | some index => .ok (.requestField index)
      | none => .error (.unknownRequestField field)
    else if scope = type then
      match model.policyIndex? type field with
      | some index => .ok (.policyField index)
      | none => .error (.unknownPolicyField scope field)
    else .error (.unknownIdentifier scope field)
  | more => .error (.notField (scope :: more))

def bindLink (relation : String) (shape : RoleShape) (arguments : List Term) : Except Fault Term :=
  match shape, arguments with
  | .global, [member, role] => .ok (.linked relation member role)
  | .perDomain, [member, role, domain] => .ok (.linkedIn relation member role domain)
  | shape, arguments => .error (.roleArity relation shape.arity arguments.length)

variable [Regex.Engine]

/-- Resolves a call of a builtin function. A literal pattern is compiled at once. -/
def bindBuiltin (name : String) (function : Builtin) (arguments : List Term) : Except Fault Term :=
  match function, arguments with
  | .regexMatch, [value, .text pattern] =>
    match Regex.ofText? pattern with
    | some regex => .ok (.fits value regex)
    | none => .error (.invalidPattern pattern)
  | function, [left, right] => .ok (.builtin function left right)
  | _, _ => .error (.builtinArity name)

/-- Resolves a call whose arguments are resolved. Role functions come before builtin ones. -/
def bindCall (model : Model) (name : String) (arguments : List Term) : Except Fault Term :=
  match model.roles.find? name with
  | some shape => bindLink name shape arguments
  | none =>
    match Builtin.ofName? name with
    | some function => bindBuiltin name function arguments
    | none => .error (.undefinedFunction name)

mutual

def bind (model : Model) (type : String) : Expr → Except Fault Term
  | .literal value => .ok (.text value)
  | .constant value => .ok (.truth value)
  | .path scope more => bindPath model type scope more
  | .call name arguments => do bindCall model name (← bindAll model type arguments)
  | .equal left right => return .equal (← bind model type left) (← bind model type right)
  | .unequal left right => return .unequal (← bind model type left) (← bind model type right)
  | .and left right => return .and (← bind model type left) (← bind model type right)
  | .or left right => return .or (← bind model type left) (← bind model type right)
  | .not operand => return .not (← bind model type operand)
  | .within element items => return .within (← bind model type element) (← bindAll model type items)

/-- Resolves expressions in order. -/
def bindAll (model : Model) (type : String) : List Expr → Except Fault (List Term)
  | [] => .ok []
  | expr :: rest => return (← bind model type expr) :: (← bindAll model type rest)

end

def compile (model : Model) : Except Fault Matcher := do
  let expr ← parse model.matcher
  let type ← typeOf model expr
  return ⟨← bind model type expr, type⟩

end Matcher
end AccessControl
