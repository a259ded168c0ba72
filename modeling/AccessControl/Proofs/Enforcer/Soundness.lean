import AccessControl.Proofs.Enforcer.Links
import AccessControl.Proofs.Enforcer.Steps
import AccessControl.Proofs.Model.Keys
import Mathlib
/-!
The soundness of states: the invariant behind all that is said of reachable enforcers. The tables are
those that the model declares, each of them is sound, and the role relation of every role type follows
the rules of its table. A new state is sound, every change keeps a state sound, and so does every
operation on an enforcer, whether it succeeds or fails.
-/
namespace AccessControl

namespace RuleTable

theorem validate_eq_ok {table : RuleTable} {type : String} {fields : List String} :
    table.validate type fields = .ok () ↔
      fields.length = table.arity ∧ PolicyText.breakingField? fields = none ∧
        ∀ word, table.effectIndex?.bind (fields[·]?) = some word → (Effect.ofText? word).isSome := by
  unfold validate
  by_cases long : fields.length = table.arity
  · cases broken : PolicyText.breakingField? fields with
    | some index => simp [long]
    | none =>
      cases effect : table.effectIndex?.bind (fields[·]?) with
      | none => simp [long]
      | some word => simp [long, Option.isSome_iff_ne_none]
  · simp [long]

end RuleTable

namespace Store

/-- The tables of a model are those of its role types and of its policy types. -/
theorem find?_ofModel (model : Model) (type : String) :
    (ofModel model).tables.find? type =
      ((model.roles.find? type).map fun shape =>
          ({ arity := shape.arity, effectIndex? := none } : RuleTable)).or
        ((model.policies.find? type).map fun fields =>
          ({ arity := fields.length, effectIndex? := model.effectIndex? type } : RuleTable)) := by
  unfold ofModel
  rw [Catalogue.find?_ofList_append, Catalogue.find?_map, Catalogue.find?_map]

theorem cleared_ofModel {model : Model} {type : String} {table : RuleTable}
    (found : (ofModel model).tables.find? type = some table) : table.cleared = table := by
  rw [find?_ofModel] at found
  rcases Option.or_eq_some_iff.1 found with role | ⟨-, policy⟩
  · obtain ⟨shape, -, rfl⟩ := Option.map_eq_some_iff.1 role
    rfl
  · obtain ⟨fields, -, rfl⟩ := Option.map_eq_some_iff.1 policy
    rfl

@[simp] theorem rules_ofModel (model : Model) (type : String) : (ofModel model).rules type = [] := by
  cases known : (ofModel model).tables.find? type with
  | none => exact rules_of_absent known
  | some table =>
    rw [rules_of_find? known, ← cleared_ofModel known]
    rfl

end Store

namespace State

/-- What the model, the tables and the role relations of a state owe to each other. -/
structure Sound (state : State) : Prop where
  keyed : state.compiled.model.Keyed
  declared : ∀ type, (state.store.tables.find? type).map RuleTable.cleared =
    (Store.ofModel state.compiled.model).tables.find? type
  tables : ∀ type table, state.store.tables.find? type = some table → table.Sound type
  relations : state.roles.names = state.compiled.model.roles.names
  links : ∀ type relation, state.roles.find? type = some relation →
    relation.Follows (state.store.rules type)

theorem sound_ofModel {compiled : CompiledModel} (keyed : compiled.model.Keyed) :
    (ofModel compiled).Sound := by
  have bare : ∀ type table, (Store.ofModel compiled.model).tables.find? type = some table →
      table.cleared = table := fun type table found => Store.cleared_ofModel found
  refine ⟨keyed, ?_, ?_, ?_, ?_⟩
  · intro type
    cases found : (Store.ofModel compiled.model).tables.find? type with
    | none => simp [ofModel, found]
    | some table => simp [ofModel, found, bare type table found]
  · intro type table found
    exact RuleTable.sound_of_cleared (bare type table found) type
  · simp [ofModel]
  · intro type relation found
    obtain ⟨shape, -, rfl⟩ : ∃ shape, compiled.model.roles.find? type = some shape ∧
        RoleRelation.empty = relation := by
      simpa [ofModel, Catalogue.find?_map] using found
    change RoleRelation.empty.Follows ((Store.ofModel compiled.model).rules type)
    rw [Store.rules_ofModel]
    exact RoleRelation.follows_empty

/-- The state of a model that was read from a text is sound. -/
theorem sound_ofText [Regex.Engine] {text : String} {model : Model} {compiled : CompiledModel}
    (read : Model.ofText text = .ok model) (compiles : CompiledModel.compile model = .ok compiled) :
    (ofModel compiled).Sound := by
  apply sound_ofModel
  rw [(CompiledModel.compile_eq_ok.1 compiles).1]
  exact Model.keyed_ofText read

namespace Sound
variable {state after : State} (sound : state.Sound) {type : String} {table : RuleTable}
include sound

theorem declared_of_find? (found : state.store.tables.find? type = some table) :
    (Store.ofModel state.compiled.model).tables.find? type = some table.cleared := by
  rw [← sound.declared, found]
  rfl

/-- The rules of a role type are to be as long as the shape of its links. -/
theorem arity_of_role {relation : RoleRelation} (role : state.roles.find? type = some relation)
    (found : state.store.tables.find? type = some table) :
    ∃ shape, state.compiled.model.roles.find? type = some shape ∧ table.arity = shape.arity := by
  have listed : type ∈ state.compiled.model.roles.names := by
    rw [← sound.relations, Catalogue.mem_names_iff]
    exact ⟨relation, role⟩
  obtain ⟨shape, shaped⟩ := (Catalogue.mem_names_iff _ _).1 listed
  have cleared := sound.declared_of_find? found
  rw [Store.find?_ofModel, shaped] at cleared
  have same := congrArg RuleTable.arity (Option.some.inj cleared)
  exact ⟨shape, shaped, same.symm⟩

/-- Two rules of a role type that pass its check do not stand for the same link. -/
theorem eq_of_link {relation : RoleRelation} (role : state.roles.find? type = some relation)
    (found : state.store.tables.find? type = some table) {one other : List String}
    (valid : table.validate type one = .ok ()) (valid' : table.validate type other = .ok ())
    (same : linkOf? one = linkOf? other) : one = other := by
  obtain ⟨shape, -, arity⟩ := sound.arity_of_role role found
  have long := (RuleTable.validate_eq_ok.1 valid).1
  have long' := (RuleTable.validate_eq_ok.1 valid').1
  exact eq_of_linkOf?_eq (long.trans arity) (long'.trans arity) same

/-- No two rules of a role type stand for the same link. -/
theorem apart {relation : RoleRelation} (role : state.roles.find? type = some relation)
    (found : state.store.tables.find? type = some table) {one other : List String}
    (here : one ∈ table.rules) (there : other ∈ table.rules) (same : linkOf? one = linkOf? other) :
    one = other := by
  have valid := (sound.tables type table found).valid
  exact sound.eq_of_link role found (valid one here) (valid other there) same

/-- What each relation owes to the rules of its type is kept when one table changes and the relation of
its type, if it has one, follows the change. -/
theorem related_withChanged {motive : RoleRelation → List (List String) → Prop}
    (related : ∀ type relation, state.roles.find? type = some relation →
      motive relation (state.store.rules type))
    (found : state.store.tables.find? type = some table) {change : RuleTable → RuleTable}
    {relink : RoleRelation → RoleRelation}
    (linked : ∀ relation, state.roles.find? type = some relation → motive relation table.rules →
      motive (relink relation) (change table).rules)
    {other : String} {relation : RoleRelation}
    (known : (state.withChanged type change relink).roles.find? other = some relation) :
    motive relation ((state.withChanged type change relink).store.rules other) := by
  change motive relation ((state.store.withTable type change).rules other)
  by_cases same : other = type
  · -- A type with a relation is a grouping type, so that its relation has been relinked.
    subst same
    have role : other ∈ state.roles.names := by
      rw [Catalogue.mem_names_iff]
      simp only [State.withChanged] at known
      split at known
      · obtain ⟨before, there, -⟩ := Option.map_eq_some_iff.1
          ((Catalogue.find?_modify_self _ _ _).symm.trans known)
        exact ⟨before, there⟩
      · exact ⟨relation, known⟩
    have grouping : isGroupingType other = true :=
      sound.keyed.isGroupingType (sound.relations ▸ role)
    simp only [State.withChanged, grouping, if_true, Catalogue.find?_modify_self] at known
    obtain ⟨before, there, rfl⟩ := Option.map_eq_some_iff.1 known
    have kept := related other before there
    rw [Store.rules_of_find? found] at kept
    rw [Store.rules_withTable_self change found]
    exact linked before there kept
  · have old : state.roles.find? other = some relation := by
      simp only [State.withChanged] at known
      split at known
      · rwa [Catalogue.find?_modify_other _ _ same] at known
      · exact known
    rw [Store.rules_withTable_other change same]
    exact related other relation old

/-- A state stays sound when one table changes into another sound one of the same declaration and the
relation of the type, if it has one, follows the change. -/
theorem withChanged (found : state.store.tables.find? type = some table)
    {change : RuleTable → RuleTable} {relink : RoleRelation → RoleRelation}
    (cleared : (change table).cleared = table.cleared) (kept : (change table).Sound type)
    (linked : ∀ relation, state.roles.find? type = some relation → relation.Follows table.rules →
      (relink relation).Follows (change table).rules) :
    (state.withChanged type change relink).Sound := by
  refine ⟨sound.keyed, ?_, ?_, ?_, ?_⟩
  · intro other
    simp only [State.withChanged, Store.find?_withTable]
    by_cases same : other = type
    · rw [if_pos same, same, found, Option.map_some, Option.map_some, cleared]
      exact (sound.declared_of_find? found).symm
    · rw [if_neg same]
      exact sound.declared other
  · intro other changed known
    simp only [State.withChanged, Store.find?_withTable] at known
    by_cases same : other = type
    · rw [if_pos same, same, found] at known
      cases known
      exact same ▸ kept
    · rw [if_neg same] at known
      exact sound.tables other changed known
  · simp only [State.withChanged]
    split
    · rw [Catalogue.names_modify]
      exact sound.relations
    · exact sound.relations
  · intro other relation known
    exact sound.related_withChanged sound.links found linked known

theorem addRule {fields : List String} {added : Bool}
    (done : state.addRule type fields = .ok (added, after)) : after.Sound := by
  obtain ⟨table, found, valid, ⟨-, -, rfl⟩ | ⟨-, absent, rfl⟩⟩ := addRule_cases done
  · exact sound
  · apply sound.withChanged found (RuleTable.cleared_insert table fields)
      ((sound.tables type table found).insert valid absent)
    intro relation _ follows
    exact follows.addLink fields

theorem removeRule {fields : List String} {removed : Bool}
    (done : state.removeRule type fields = .ok (removed, after)) : after.Sound := by
  obtain ⟨table, found, ⟨-, -, rfl⟩ | ⟨-, present, rfl⟩⟩ := removeRule_cases done
  · exact sound
  · have inside := ((sound.tables type table found).indexed fields).1 present
    apply sound.withChanged found (RuleTable.cleared_erase table fields)
      ((sound.tables type table found).erase fields)
    intro relation role follows
    change (([fields]).foldl (fun relation fields => removeLink fields relation) relation).Follows _
    -- One rule goes, which is the filtered removal of just that rule.
    apply follows.removeLinks
    · intro other
      simp [RuleTable.erase]
    · intro one here other only
      rw [List.mem_singleton.1 only]
      exact sound.apart role found here inside

theorem removeFiltered {index : Word} {values : List String} {removed : List (List String)}
    (done : state.removeFiltered type index values = .ok (removed, after)) : after.Sound := by
  obtain ⟨table, found, rfl, ⟨-, rfl⟩ | ⟨-, rfl⟩⟩ := removeFiltered_cases done
  · exact sound
  · apply sound.withChanged found (RuleTable.cleared_eraseMatching table index values)
      ((sound.tables type table found).eraseMatching index values)
    intro relation role follows
    apply follows.removeLinks
    · intro other
      by_cases selected : fieldsMatch other index values = true
      · simp [RuleTable.eraseMatching, selected]
      · simp [RuleTable.eraseMatching, selected]
    · intro one here other gone
      exact sound.apart role found here (List.mem_filter.1 gone).1

/-- Wherever a sound state leads to is sound. -/
theorem leads (leads : state.Leads after) : after.Sound := by
  induction leads with
  | refl => exact sound
  | addRule _ done ih => exact ih.addRule done
  | removeRule _ done ih => exact ih.removeRule done
  | removeFiltered _ done ih => exact ih.removeFiltered done

end Sound

end State

namespace Enforcer
variable [Regex.Engine] {enforcer after : Enforcer}

/-- Every operation keeps the state sound. -/
theorem sound_next (sound : enforcer.state.Sound) (next : enforcer.Next after) : after.state.Sound := by
  cases next with
  | changed leads => exact sound.leads leads
  | reloaded leads => exact (State.sound_ofModel sound.keyed).leads leads
  | replaced read compiles leads => exact (State.sound_ofText read compiles).leads leads
  | decided request => exact sound

theorem sound_run (sound : enforcer.state.Sound) (operations : List Operation) :
    (enforcer.run operations).state.Sound :=
  run_induction (motive := fun enforcer => enforcer.state.Sound) sound_next sound operations

theorem sound_start {text : String} {model : Model} (read : Model.ofText text = .ok model)
    (made : ofModel model = .ok enforcer) : enforcer.state.Sound := by
  obtain ⟨compiled, compiles, rfl⟩ := Result.map_eq_ok.1 made
  exact State.sound_ofText read compiles

theorem sound_of_reachable (reachable : enforcer.Reachable) : enforcer.state.Sound := by
  obtain ⟨read, made, storage?, operations⟩ := reachable
  have sound := sound_start read made
  apply sound_run
  exact sound

end Enforcer

namespace Tenants

/-- The text of a small model: who has a role in a domain may do what the role may do there. -/
def text : String :=
  "r = sub, dom\np = sub, dom, eft\ng = _, _, _\ne = priority(p.eft)\nm = g(r.sub, p.sub, r.dom)"

/-- The model itself. -/
def model : Model where
  request := ["sub", "dom"]
  policies := .ofList [("p", ["sub", "dom", "eft"])]
  roles := .ofList [("g", .perDomain)]
  effect := "priority(p.eft)"
  matcher := "g(r.sub, p.sub, r.dom)"

/-- The matcher of the model. -/
def matcher : Matcher where
  root := .linkedIn "g" (.requestField 0) (.policyField 0) (.requestField 1)
  type := "p"

/-- The enforcer that is made of the model. -/
def enforcer : Enforcer where
  state := .ofModel ⟨model, matcher, ⟨.priority, false⟩⟩

theorem ofText_text : Model.ofText text = .ok model := rfl

section
variable [Regex.Engine]

theorem compile_model : Matcher.compile model = .ok matcher := by cbv

theorem compiled_model : CompiledModel.compile model = .ok ⟨model, matcher, ⟨.priority, false⟩⟩ :=
  CompiledModel.compile_eq_ok.2 ⟨rfl, compile_model, by decide +kernel⟩

theorem ofModel_model : Enforcer.ofModel model = .ok enforcer :=
  Result.map_eq_ok.2 ⟨_, compiled_model, rfl⟩

end

end Tenants
end AccessControl
