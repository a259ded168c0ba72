import AccessControl.Pattern.Regex.Engine
import AccessControl.Proofs.Enforcer.Soundness
/-!
The consistency of enforcers: the declared types, the rules of each type with their index, and the
links of each role type agree with one another, whatever operations have led there and however many
of them have failed.
-/
namespace AccessControl

/-- Whether the rule for a link is among some rules. Where links hold everywhere, a rule names no
domain and its link belongs to the default one. -/
def RoleShape.HasRule (rules : List (List String)) (member role domain : String) : RoleShape → Prop
  | .global => domain = defaultDomain ∧ [member, role] ∈ rules
  | .perDomain => [member, role, domain] ∈ rules

namespace Enforcer

/-- What model, rules and links of an enforcer owe to one another. -/
structure Consistent (enforcer : Enforcer) : Prop where
  /-- The types that the store knows are the policy types and the role types. -/
  types : ∀ type, type ∈ enforcer.state.store.types ↔
    type ∈ enforcer.model.policies.names ∨ type ∈ enforcer.model.roles.names
  /-- There is a role relation for each role type and for no other type. -/
  relations : ∀ type, type ∈ enforcer.state.roles.names ↔ type ∈ enforcer.model.roles.names
  /-- No rule stands twice among those of its type. -/
  distinct : ∀ type, (enforcer.get type).Nodup
  /-- The rules that are present are those that are listed. -/
  present : ∀ type fields, enforcer.has type fields = true ↔ fields ∈ enforcer.get type
  /-- A policy rule has the declared fields, none of them breaks a line, and the declared effect, if
  there is one, is a word for an effect. -/
  policies : ∀ type names, enforcer.model.policies.find? type = some names →
    ∀ fields ∈ enforcer.get type, fields.length = names.length ∧
      (∀ field ∈ fields, '\r' ∉ field.toList ∧ '\n' ∉ field.toList) ∧
      ∀ index, names.idxOf? Model.effectField = some index →
        fields[index]? = some "allow" ∨ fields[index]? = some "deny"
  /-- A grouping rule is as long as the shape of its links, and no field breaks a line. -/
  groupings : ∀ type shape, enforcer.model.roles.find? type = some shape →
    ∀ fields ∈ enforcer.get type, fields.length = shape.arity ∧
      ∀ field ∈ fields, '\r' ∉ field.toList ∧ '\n' ∉ field.toList
  /-- The direct links of a domain are those of the grouping rules. -/
  links : ∀ type shape, enforcer.model.roles.find? type = some shape →
    ∃ relation, enforcer.state.roles.find? type = some relation ∧
      ∀ member role domain, role ∈ relation.rolesOf member (some domain) ↔
        shape.HasRule (enforcer.get type) member role domain

end Enforcer

theorem not_mem_of_breakingField? {fields : List String}
    (unbroken : PolicyText.breakingField? fields = none) :
    ∀ field ∈ fields, '\r' ∉ field.toList ∧ '\n' ∉ field.toList := by
  intro field inside
  have whole : breaksLine field = false := by
    simpa using List.findIdx?_eq_none_iff.1 unbroken field inside
  unfold breaksLine at whole
  rw [List.any_eq_false] at whole
  constructor
  · intro found
    exact absurd (whole '\r' found) (by decide)
  · intro found
    exact absurd (whole '\n' found) (by decide)

theorem Effect.eq_of_ofText?_isSome {word : String} (named : (ofText? word).isSome) :
    word = "allow" ∨ word = "deny" := by
  obtain ⟨effect, read⟩ := Option.isSome_iff_exists.1 named
  have same := text_of_ofText? read
  cases effect with
  | allow => exact .inl same.symm
  | deny => exact .inr same.symm

/-- Rules of one shape stand for the links that their fields spell out. -/
theorem exists_linkOf?_iff {shape : RoleShape} {rules : List (List String)}
    (long : ∀ fields ∈ rules, fields.length = shape.arity) (member role domain : String) :
    (∃ fields ∈ rules, linkOf? fields = some (member, role, domain)) ↔
      shape.HasRule rules member role domain := by
  cases shape with
  | global =>
    constructor
    · rintro ⟨fields, inside, link⟩
      obtain ⟨first, second, rfl⟩ := List.length_eq_two.1 (long fields inside)
      cases link
      exact ⟨rfl, inside⟩
    · rintro ⟨rfl, inside⟩
      exact ⟨[member, role], inside, rfl⟩
  | perDomain =>
    constructor
    · rintro ⟨fields, inside, link⟩
      obtain ⟨first, second, third, rfl⟩ := List.length_eq_three.1 (long fields inside)
      cases link
      exact inside
    · intro inside
      exact ⟨[member, role, domain], inside, rfl⟩

namespace State.Sound
variable {state : State} (sound : state.Sound) {type : String}
include sound

theorem mem_types : type ∈ state.store.types ↔
    type ∈ state.compiled.model.policies.names ∨ type ∈ state.compiled.model.roles.names := by
  unfold Store.types
  have declared := sound.declared type
  rw [Store.find?_ofModel] at declared
  rw [Catalogue.mem_names_iff, Catalogue.mem_names_iff, Catalogue.mem_names_iff]
  constructor
  · rintro ⟨table, found⟩
    rw [found, Option.map_some] at declared
    rcases Option.or_eq_some_iff.1 declared.symm with role | ⟨-, policy⟩
    · obtain ⟨shape, shaped, -⟩ := Option.map_eq_some_iff.1 role
      exact .inr ⟨shape, shaped⟩
    · obtain ⟨names, named, -⟩ := Option.map_eq_some_iff.1 policy
      exact .inl ⟨names, named⟩
  · intro known
    cases found : state.store.tables.find? type with
    | some table => exact ⟨table, rfl⟩
    | none =>
      rw [found] at declared
      rcases known with ⟨names, named⟩ | ⟨shape, shaped⟩
      · simp [named] at declared
      · simp [shaped] at declared

/-- There is a role relation for each role type. -/
theorem exists_relation {shape : RoleShape} (shaped : state.compiled.model.roles.find? type = some shape) :
    ∃ relation, state.roles.find? type = some relation := by
  rw [← Catalogue.mem_names_iff, sound.relations, Catalogue.mem_names_iff]
  exact ⟨shape, shaped⟩

theorem nodup_rules : (state.store.rules type).Nodup := by
  cases found : state.store.tables.find? type with
  | none =>
    rw [Store.rules_of_absent found]
    exact List.nodup_nil
  | some table =>
    rw [Store.rules_of_find? found]
    exact (sound.tables type table found).distinct

/-- The index of a type knows the rules of the type. -/
theorem has_iff (fields : List String) :
    state.store.has type fields = true ↔ fields ∈ state.store.rules type := by
  cases found : state.store.tables.find? type with
  | none =>
    rw [Store.rules_of_absent found, Store.has, found]
    simp
  | some table =>
    rw [Store.rules_of_find? found, Store.has_of_find? found]
    exact (sound.tables type table found).indexed fields

/-- Each rule of a type passes the check of the type. -/
theorem exists_table {fields : List String} (inside : fields ∈ state.store.rules type) :
    ∃ table, state.store.tables.find? type = some table ∧ table.validate type fields = .ok () := by
  cases found : state.store.tables.find? type with
  | none =>
    rw [Store.rules_of_absent found] at inside
    exact absurd inside List.not_mem_nil
  | some table =>
    rw [Store.rules_of_find? found] at inside
    exact ⟨table, rfl, (sound.tables type table found).valid fields inside⟩

theorem policy_rule {names fields : List String}
    (named : state.compiled.model.policies.find? type = some names)
    (inside : fields ∈ state.store.rules type) :
    fields.length = names.length ∧
      (∀ field ∈ fields, '\r' ∉ field.toList ∧ '\n' ∉ field.toList) ∧
      ∀ index, names.idxOf? Model.effectField = some index →
        fields[index]? = some "allow" ∨ fields[index]? = some "deny" := by
  obtain ⟨table, found, valid⟩ := sound.exists_table inside
  obtain ⟨long, unbroken, effect⟩ := RuleTable.validate_eq_ok.1 valid
  have policy : type ∈ state.compiled.model.policies.names :=
    (Catalogue.mem_names_iff _ _).2 ⟨names, named⟩
  have declared := sound.declared_of_find? found
  rw [Store.find?_ofModel, sound.keyed.find?_roles_of_policy policy, named] at declared
  have arity : names.length = table.arity := congrArg RuleTable.arity (Option.some.inj declared)
  have place : state.compiled.model.effectIndex? type = table.effectIndex? :=
    congrArg RuleTable.effectIndex? (Option.some.inj declared)
  refine ⟨long.trans arity.symm, not_mem_of_breakingField? unbroken, ?_⟩
  intro index here
  have placed : table.effectIndex? = some index := by
    rw [← place, Model.effectIndex?, Model.policyIndex?_of_find? named]
    exact here
  have short : index < fields.length := by
    rw [long, ← arity]
    exact (List.idxOf?_eq_some_iff.1 here).1
  have word : fields[index]? = some fields[index] := List.getElem?_eq_getElem short
  have named : (Effect.ofText? fields[index]).isSome := by
    apply effect
    rw [placed]
    exact word
  rw [word]
  exact (Effect.eq_of_ofText?_isSome named).imp (congrArg some) (congrArg some)

theorem grouping_rule {shape : RoleShape} {fields : List String}
    (shaped : state.compiled.model.roles.find? type = some shape)
    (inside : fields ∈ state.store.rules type) :
    fields.length = shape.arity ∧ ∀ field ∈ fields, '\r' ∉ field.toList ∧ '\n' ∉ field.toList := by
  obtain ⟨table, found, valid⟩ := sound.exists_table inside
  obtain ⟨long, unbroken, -⟩ := RuleTable.validate_eq_ok.1 valid
  have declared := sound.declared_of_find? found
  rw [Store.find?_ofModel, shaped] at declared
  have arity : shape.arity = table.arity := congrArg RuleTable.arity (Option.some.inj declared)
  exact ⟨long.trans arity.symm, not_mem_of_breakingField? unbroken⟩

end State.Sound

namespace Enforcer

theorem consistent_of_sound {enforcer : Enforcer} (sound : enforcer.state.Sound) :
    enforcer.Consistent := by
  refine ⟨fun type => sound.mem_types, ?_, fun type => sound.nodup_rules,
    fun type fields => sound.has_iff fields, fun type names named fields => sound.policy_rule named,
    fun type shape shaped fields => sound.grouping_rule shaped, ?_⟩
  · intro type
    rw [sound.relations]
    rfl
  · intro type shape shaped
    obtain ⟨relation, related⟩ := sound.exists_relation shaped
    refine ⟨relation, related, ?_⟩
    intro member role domain
    rw [sound.links type relation related member role domain]
    exact exists_linkOf?_iff (fun fields inside => (sound.grouping_rule shaped inside).1)
      member role domain

/-- Whatever operations follow one another on a new enforcer, each of them succeeding or failing, its
model, its rules and its links stay consistent. -/
theorem consistent_run [Regex.Engine] {text : String} {model : Model} {start : Enforcer}
    (read : Model.ofText text = .ok model) (made : ofModel model = .ok start)
    (storage? : Option Storage) (operations : List Operation) :
    (run { start with storage? } operations).Consistent := by
  apply consistent_of_sound
  apply sound_of_reachable
  exact .intro read made storage? operations

/-- A run in which some operations fail: a rule without an effect, a link without a domain and a model
without rules. -/
theorem consistent_run_of_tenants :
    (run { Tenants.enforcer with storage? := none }
      [.add "p" ["admin", "one", "allow"], .add "p" ["admin", "one", "allow"],
        .add "p" ["admin", "one", "maybe"], .addRole "alice" "admin" (some "one"),
        .addRole "alice" "admin" none, .deleteUser "alice", .loadModel "r = sub",
        .decide ["alice", "one"]]).Consistent := by
  apply consistent_run
  · exact Tenants.ofText_text
  · exact Tenants.ofModel_model

end Enforcer
end AccessControl
