import AccessControl.Decision
import AccessControl.Storage
import AccessControl.Store
/-!
The enforcer: a compiled model, the rules of its types, and the role relations that its grouping
rules make up. A change is worked out on the whole state and takes effect as one, or not at all.
A request is decided by the rules of the matcher's policy type in the order of their insertion.
-/
namespace AccessControl

/-- A model with its matcher and its effect rule. -/
structure CompiledModel where
  model : Model
  matcher : Matcher
  effect : EffectRule

namespace CompiledModel

/-- Compiles the matcher of a model and then its effect expression, which is about the policy type of
the matcher. -/
def compile [Regex.Engine] (model : Model) : Except Error CompiledModel := do
  let matcher ← (Matcher.compile model).mapError .matcher
  match EffectRule.ofText? matcher.type model.effect with
  | some effect => return { model, matcher, effect }
  | none => .error (.effect model.effect)

/-- The place of the effect in the rules that decide, if their type declares one. -/
def effectIndex? (compiled : CompiledModel) : Option Nat :=
  compiled.model.effectIndex? compiled.matcher.type

end CompiledModel

/-- The decision on a request, and the rule that made it. -/
structure Verdict where
  allowed : Bool
  decidedBy? : Option Rule
deriving DecidableEq, Repr

/-- All that a decision depends on besides the request. -/
structure State where
  compiled : CompiledModel
  store : Store
  roles : Catalogue RoleRelation

namespace State

/-- The state without rules. -/
def ofModel (compiled : CompiledModel) : State where
  compiled
  store := Store.ofModel compiled.model
  roles := compiled.model.roles.map fun _ _ => .empty

/-- Changes the role relation of a grouping type. -/
def withRelation (state : State) (type : String) (change : RoleRelation → RoleRelation) :
    Except Error State :=
  if state.roles.has type then .ok { state with roles := state.roles.modify type change }
  else .error (.unknownType type)

/-- Makes the link that the fields of a grouping rule stand for. -/
def addLink (fields : List String) (relation : RoleRelation) : RoleRelation :=
  match fields with
  | member :: role :: more => (relation.add member role more.head?).2
  | _ => relation

/-- Takes back the link that the fields of a grouping rule stand for. -/
def removeLink (fields : List String) (relation : RoleRelation) : RoleRelation :=
  match fields with
  | member :: role :: more => (relation.remove member role more.head?).2
  | _ => relation

/-- Adds a rule, and its link if it is a grouping rule; the answer tells whether it is new. -/
def addRule (state : State) (type : String) (fields : List String) : Except Error (Bool × State) := do
  let (added, store) ← state.store.add type fields
  let state := { state with store }
  if added && isGroupingType type then return (true, ← state.withRelation type (addLink fields))
  else return (added, state)

/-- Adds rules of one type in order; the answer tells whether any of them is new. -/
def addRules (state : State) (type : String) : List (List String) → Except Error (Bool × State)
  | [] => .ok (false, state)
  | fields :: rest => do
    let (added, state) ← state.addRule type fields
    let (addedLater, state) ← state.addRules type rest
    return (added || addedLater, state)

/-- Removes a rule, and its link if it is a grouping rule; the answer tells whether there was one. -/
def removeRule (state : State) (type : String) (fields : List String) : Except Error (Bool × State) := do
  let (removed, store) ← state.store.remove type fields
  let state := { state with store }
  if removed && isGroupingType type then return (true, ← state.withRelation type (removeLink fields))
  else return (removed, state)

/-- Removes the rules of a type whose fields from `index` on are the given values, and their links;
the removed rules are the answer. -/
def removeFiltered (state : State) (type : String) (index : Word) (values : List String) :
    Except Error (List (List String) × State) := do
  let (removed, store) ← state.store.removeFiltered type index values
  let state := { state with store }
  if isGroupingType type && !removed.isEmpty then
    return (removed, ← state.withRelation type fun relation =>
      removed.foldl (fun relation fields => removeLink fields relation) relation)
  else return (removed, state)

/-- Adds rules of any types in order. -/
def addAll (state : State) : List Rule → Except Error State
  | [] => .ok state
  | rule :: rest => do
    let (_, state) ← state.addRule rule.type rule.fields
    state.addAll rest

def ofRules (compiled : CompiledModel) (rules : RuleSet) : Except Error State :=
  (ofModel compiled).addAll rules.toList

/-- The effect of a matching rule. A rule whose type declares no effect allows. -/
def effectOf (state : State) (rule : List String) : Except Error Effect :=
  match state.compiled.effectIndex? with
  | none => .ok .allow
  | some index =>
    match rule[index]? with
    | none => .error (.evaluation (.absentField index))
    | some word =>
      match Effect.ofText? word with
      | some effect => .ok effect
      | none => .error (.effectValue word)

/-- What yields an answer or an error while it fills a cache of patterns. -/
abbrev Deciding := ExceptT Error (StateM PatternCache)

variable [Regex.Engine]

def matchesRule (state : State) (request rule : List String) : Deciding Bool :=
  (state.compiled.matcher.run ⟨request, rule, state.roles⟩).adapt .evaluation

/-- Tallies the rules that match a request, up to the one that settles the decision. -/
def tally (state : State) (request : List String) (counted : Tally (List String)) :
    List (List String) → Deciding (Tally (List String))
  | [] => return counted
  | rule :: rest => do
    if ← state.matchesRule request rule then
      let counted := counted.push rule (← state.effectOf rule)
      if counted.settled state.compiled.effect.combinator then return counted
      else state.tally request counted rest
    else state.tally request counted rest

/-- Decides a request, which must have a value for each declared field. -/
def enforce (state : State) (request : List String) : Deciding Verdict := do
  let compiled := state.compiled
  if request.length ≠ compiled.model.request.length then
    throw (.requestArity compiled.model.request.length request.length)
  let counted ← state.tally request {} (state.store.rules compiled.matcher.type)
  let (allowed, decidedBy?) := counted.decide compiled.effect
  return { allowed, decidedBy? := decidedBy?.map (Rule.mk compiled.matcher.type) }

end State

/-- A state with the place where its rules are kept, if there is one, and the patterns that earlier
decisions of its matcher have compiled. -/
structure Enforcer where
  state : State
  storage? : Option Storage := none
  patterns : PatternCache := .empty

namespace Enforcer

/-- The enforcer of a model, without rules and without storage. -/
def ofModel [Regex.Engine] (model : Model) : Except Error Enforcer :=
  (CompiledModel.compile model).map fun compiled => { state := .ofModel compiled }

/-- The storage, which must be there. -/
def storage (enforcer : Enforcer) : Except Error Storage :=
  match enforcer.storage? with
  | some storage => .ok storage
  | none => .error .noStorage

def replaceRules (enforcer : Enforcer) (rules : RuleSet) : Except Error Enforcer := do
  return { enforcer with state := ← State.ofRules enforcer.state.compiled rules }

end Enforcer

/-- An enforcer together with the files that its storage is among. -/
structure World where
  enforcer : Enforcer
  files : FileTree

namespace World

/-- Does to the files what a storage does. -/
def store {α : Type} (action : Storing α) : Action World Error α := fun world =>
  let (result, files) := action.run world.files
  (result, { world with files })

/-- Puts the stored rules in place of all present ones. -/
def load (platform : Platform) : Action World Error Unit := do
  let storage ← (← get).enforcer.storage
  let rules ← store (storage.loadOn platform)
  let enforcer ← (← get).enforcer.replaceRules rules
  modify ({ · with enforcer })

/-- Puts the present rules in place of all stored ones. -/
def save (platform : Platform) : Action World Error Unit := do
  let enforcer := (← get).enforcer
  let storage ← enforcer.storage
  store (storage.saveOn platform enforcer.state.store.ruleSet)

end World

namespace Enforcer

def loadPolicy (enforcer : Enforcer) (files : FileTree) : Except Error Enforcer :=
  ((World.load .reliable).after ⟨enforcer, files⟩).map (·.enforcer)

/-- The files after the present rules have been put in place of the stored ones. -/
def savePolicy (enforcer : Enforcer) (files : FileTree) : Except Error FileTree :=
  ((World.save .reliable).after ⟨enforcer, files⟩).map (·.files)

/-- The enforcer of a model with the stored rules. -/
def withStorage [Regex.Engine] (model : Model) (storage : Storage) (files : FileTree) :
    Except Error Enforcer := do
  ({ ← ofModel model with storage? := some storage } : Enforcer).loadPolicy files

/-- Puts a model in place of the present one. The present rules are kept if they all fit it; the
patterns belonged to the matcher that goes. -/
def loadModel [Regex.Engine] (enforcer : Enforcer) (model : Model) : Except Error Enforcer := do
  let compiled ← CompiledModel.compile model
  return { enforcer with
    state := ← State.ofRules compiled enforcer.state.store.ruleSet
    patterns := .empty }

/-- Removes all rules. What is stored stays. -/
def clear (enforcer : Enforcer) : Enforcer :=
  { enforcer with state := .ofModel enforcer.state.compiled }

/-- The decision on a request, and the enforcer with the patterns that were compiled for it. -/
def decide [Regex.Engine] (enforcer : Enforcer) (request : List String) :
    Except Error Verdict × Enforcer :=
  let (verdict, patterns) := (enforcer.state.enforce request).run enforcer.patterns
  (verdict, { enforcer with patterns })

def enforce [Regex.Engine] (enforcer : Enforcer) (request : List String) : Except Error Verdict :=
  (enforcer.decide request).1

def model (enforcer : Enforcer) : Model := enforcer.state.compiled.model

def rules (enforcer : Enforcer) : RuleSet := enforcer.state.store.ruleSet

/-- Takes over the state that a change leads to, together with its answer. -/
def update {α : Type} (enforcer : Enforcer) (change : State → Except Error (α × State)) :
    Except Error (α × Enforcer) := do
  let (answer, state) ← change enforcer.state
  return (answer, { enforcer with state })

/-- Adds a rule; the answer tells whether it is new. -/
def add (enforcer : Enforcer) (type : String) (fields : List String) : Except Error (Bool × Enforcer) :=
  enforcer.update (·.addRule type fields)

/-- Adds rules of one type, all or none of them; the answer tells whether any is new. -/
def addMany (enforcer : Enforcer) (type : String) (rules : List (List String)) :
    Except Error (Bool × Enforcer) :=
  enforcer.update (·.addRules type rules)

/-- Removes a rule; the answer tells whether there was one. -/
def remove (enforcer : Enforcer) (type : String) (fields : List String) : Except Error (Bool × Enforcer) :=
  enforcer.update (·.removeRule type fields)

/-- Removes the rules whose fields from `index` on are the given values; the answer tells whether
there was any. -/
def removeFiltered (enforcer : Enforcer) (type : String) (index : Word) (values : List String) :
    Except Error (Bool × Enforcer) := do
  let (removed, enforcer) ← enforcer.update (·.removeFiltered type index values)
  return (!removed.isEmpty, enforcer)

def get (enforcer : Enforcer) (type : String) : List (List String) := enforcer.state.store.rules type

def has (enforcer : Enforcer) (type : String) (fields : List String) : Bool :=
  enforcer.state.store.has type fields

/-- The rules of a type whose fields from `index` on are the given values. -/
def filtered (enforcer : Enforcer) (type : String) (index : Word) (values : List String) :
    List (List String) :=
  enforcer.state.store.filtered type index values

end Enforcer
end AccessControl
