import AccessControl.Catalogue
import AccessControl.Text.Layout
/-!
Authorization models. A model declares the fields of a request, the fields of each policy type, the
shape of each role relation, an effect expression and a matcher expression. The two expressions are
kept as text. In the text of a model a definition is a line `key = value`; a backslash at its end joins the
next line to it. Blank lines and lines that start with `#` are passed over between definitions. A header such
as `[matchers]` says which kind of definition may follow.
-/
namespace AccessControl

/-- Whether the links of a role relation hold everywhere or within a domain. -/
inductive RoleShape where
  | global
  | perDomain
deriving DecidableEq, Repr, Inhabited

/-- The number of fields of a link, which is also the number of arguments of its role function. -/
def RoleShape.arity : RoleShape → Nat
  | global => 2
  | perDomain => 3

structure Model where
  request : List String
  policies : Catalogue (List String)
  roles : Catalogue RoleShape
  effect : String
  matcher : String

namespace Model

def effectField : String := "eft"

def requestIndex? (model : Model) (field : String) : Option Nat := model.request.idxOf? field

def policyIndex? (model : Model) (type field : String) : Option Nat := do
  let fields ← model.policies.find? type
  fields.idxOf? field

/-- The place of the effect in the rules of a policy type, if the type declares one. -/
def effectIndex? (model : Model) (type : String) : Option Nat := model.policyIndex? type effectField

theorem policyIndex?_of_find? {model : Model} {type : String} {names : List String}
    (found : model.policies.find? type = some names) (field : String) :
    model.policyIndex? type field = names.idxOf? field := by
  rw [policyIndex?, found]
  rfl

open Text

/-- What a definition defines. -/
inductive Part where
  | request
  | policy
  | role
  | effect
  | matcher
deriving DecidableEq, Repr

inductive LineFault where
  | unterminatedHeader
  | unknownSection (name : String)
  | noDefinition
  | unknownKey (key : String)
  | misplaced (key : String)
  | duplicate (key : String)
  | emptyDefinition (key : String)
  | invalidField (field key : String)
  | repeatedField (field key : String)
  | invalidRole (key : String)
deriving DecidableEq, Repr

/-- Why a text is no model: a fault on a line, or a definition that it lacks. -/
inductive Fault where
  | line (number : Nat) (fault : LineFault)
  | missing (part : Part)
deriving DecidableEq, Repr

namespace Part

def ofHeader? (name : String) : Option Part :=
  match name with
  | "request_definition" => some request
  | "policy_definition" => some policy
  | "role_definition" => some role
  | "policy_effect" => some effect
  | "matchers" => some matcher
  | _ => none

/-- What may follow the letter of a numbered key: nothing, or a number other than one without a
leading zero. -/
def isNumbering (digits : List Char) : Bool :=
  digits.all Char.isDigit && digits.head? != some '0' && digits != ['1']

def ofKey? (key : List Char) : Option Part :=
  match key with
  | ['r'] => some request
  | ['e'] => some effect
  | ['m'] => some matcher
  | 'p' :: digits => if isNumbering digits then some policy else none
  | 'g' :: digits => if isNumbering digits then some role else none
  | _ => none

end Part

/-- A definition that goes on over a line end. -/
structure Pending where
  number : Nat
  text : List Char

/-- Adds a line to what it continues, with a blank between them unless nothing came before. -/
def Pending.join (pending : Pending) (text : List Char) : Pending :=
  { pending with text := if pending.text.isEmpty then text else pending.text ++ ' ' :: text }

/-- The trimmed definitions and headers of numbered lines, each with the number of its first line.
A line that continues another is never a comment. -/
def logicalLines : List (Nat × List Char) → Option Pending → List Pending
  | [], none => []
  | [], some pending => [pending]
  | (number, raw) :: rest, pending? =>
    let line := trim raw
    if pending?.isNone && (line.isEmpty || line.head? == some '#') then logicalLines rest none
    else
      let pending := pending?.getD ⟨number, []⟩
      if line.getLast? = some '\\' then logicalLines rest (some (pending.join (trimEnd line.dropLast)))
      else pending.join line :: logicalLines rest none

/-- A field name is a letter or an underscore followed by letters, digits and underscores. -/
def isFieldName (name : List Char) : Bool :=
  match name with
  | [] => false
  | c :: rest => (c.isAlpha || c == '_') && rest.all fun c => c.isAlphanum || c == '_'

/-- The items of a list with commas between them, trimmed. -/
def items (value : List Char) : List String := (value.splitOn ',').map fun item => String.ofList (trim item)

/-- The field names of a definition, after those already read. -/
def readFields (key : String) : List String → List String → Except LineFault (List String)
  | fields, [] => .ok fields
  | fields, name :: rest =>
    if !isFieldName name.toList then .error (.invalidField name key)
    else if name ∈ fields then .error (.repeatedField name key)
    else readFields key (fields ++ [name]) rest

def readShape (key : String) (placeholders : List String) : Except LineFault RoleShape :=
  if placeholders = ["_", "_"] then .ok .global
  else if placeholders = ["_", "_", "_"] then .ok .perDomain
  else .error (.invalidRole key)

/-- The definitions read so far, and the kind that the last header announced. -/
structure Draft where
  header? : Option Part := none
  keys : List String := []
  request? : Option (List String) := none
  policies : Catalogue (List String) := .empty
  roles : Catalogue RoleShape := .empty
  effect? : Option String := none
  matcher? : Option String := none

namespace Draft

/-- Enters a definition whose key is known to be new and whose value is known not to be empty. -/
def enter (draft : Draft) (part : Part) (key value : String) : Except LineFault Draft :=
  match part with
  | .request => do return { draft with request? := some (← readFields key [] (items value.toList)) }
  | .policy => do
    return { draft with policies := draft.policies.insert key (← readFields key [] (items value.toList)) }
  | .role => do return { draft with roles := draft.roles.insert key (← readShape key (items value.toList)) }
  | .effect => .ok { draft with effect? := some value }
  | .matcher => .ok { draft with matcher? := some value }

/-- Reads a definition: its key must be known, stand under a header of its kind, be new, and define
something. -/
def define (draft : Draft) (key value : List Char) : Except LineFault Draft :=
  let name := String.ofList key
  match Part.ofKey? key with
  | none => .error (.unknownKey name)
  | some part =>
    if draft.header?.any (· != part) then .error (.misplaced name)
    else if name ∈ draft.keys then .error (.duplicate name)
    else if value.isEmpty then .error (.emptyDefinition name)
    else enter { draft with keys := name :: draft.keys } part name (String.ofList value)

def readLine (draft : Draft) (line : List Char) : Except LineFault Draft :=
  match line with
  | '[' :: header =>
    if header.getLast? = some ']' then
      let name := String.ofList (trim header.dropLast)
      match Part.ofHeader? name with
      | some part => .ok { draft with header? := some part }
      | none => .error (.unknownSection name)
    else .error .unterminatedHeader
  | line =>
    match cut? '=' line with
    | none => .error .noDefinition
    | some (key, value) => define draft (trim key) (trim value)

/-- Reads logical lines up to the first fault. -/
def readLines (draft : Draft) : List Pending → Except Fault Draft
  | [] => .ok draft
  | line :: rest =>
    match readLine draft line.text with
    | .error fault => .error (.line line.number fault)
    | .ok draft => readLines draft rest

def complete (draft : Draft) : Except Fault Model :=
  match draft.request? with
  | none => .error (.missing .request)
  | some request =>
    if draft.policies.entries.isEmpty then .error (.missing .policy)
    else
      match draft.effect?, draft.matcher? with
      | none, _ => .error (.missing .effect)
      | _, none => .error (.missing .matcher)
      | some effect, some matcher =>
        .ok { request, policies := draft.policies, roles := draft.roles, effect, matcher }

end Draft

def ofText (text : String) : Except Fault Model := do
  (← Draft.readLines {} (logicalLines (numberedLines text.toList) none)).complete

end Model
end AccessControl
