import AccessControl.Proofs.Enforcer.Order
import AccessControl.Proofs.Matcher.Linking
/-!
Answers do not depend on history. Two enforcers of the same model with the same rules may have come about
in different ways: rules were added in them, removed and added again, models replaced, requests decided.
Their indexes, the names in their role graphs and their compiled patterns still tell of this, but none of
their answers does.
-/
namespace AccessControl

namespace RuleSet

theorem filter_toList_ofList (rules : List Rule) (type : String) :
    (ofList rules).toList.filter (·.type == type) = rules.filter (·.type == type) := by
  -- All rules of one type are of one kind.
  have grouped (rule : Rule) :
      (rule.type == type && rule.isGrouping) = (rule.type == type && isGroupingType type) := by
    by_cases same : rule.type = type
    · rw [Rule.isGrouping, same]
    · rw [beq_eq_false_iff_ne.2 same, Bool.false_and, Bool.false_and]
  have ungrouped (rule : Rule) :
      (rule.type == type && !rule.isGrouping) = (rule.type == type && !isGroupingType type) := by
    by_cases same : rule.type = type
    · rw [Rule.isGrouping, same]
    · rw [beq_eq_false_iff_ne.2 same, Bool.false_and, Bool.false_and]
  unfold toList ofList
  rw [List.filter_append, List.filter_filter, List.filter_filter]
  simp only [grouped, ungrouped]
  cases isGroupingType type with
  | false => simp
  | true => simp

end RuleSet

namespace Store

/-- The rules of some tables, those of one type picked out. -/
theorem filter_rules {entries : List (String × RuleTable)}
    (ordered : entries.Pairwise fun a b => a.1 < b.1) (type : String) :
    ((entries.flatMap fun (type, table) => table.rules.map (Rule.mk type)).filter
        (·.type == type)).map (·.fields) =
      (((entries.find? fun entry => entry.1 == type).map (·.2)).map (·.rules)).getD [] := by
  induction entries with
  | nil => rfl
  | cons first rest ih =>
    obtain ⟨before, tailOrdered⟩ := List.pairwise_cons.1 ordered
    rw [List.flatMap_cons, List.filter_append, List.map_append, ih tailOrdered]
    by_cases same : first.1 = type
    · -- No later table is of the same type.
      have absent : rest.find? (fun entry => entry.1 == type) = none :=
        Catalogue.find?_of_before fun entry later => same ▸ before entry later
      rw [List.filter_eq_self.2, absent]
      · simp [same, Function.comp_def]
      · intro rule inside
        obtain ⟨fields, -, rfl⟩ := List.mem_map.1 inside
        simpa using same
    · rw [List.filter_eq_nil_iff.2]
      · simp [same]
      · intro rule inside
        obtain ⟨fields, -, rfl⟩ := List.mem_map.1 inside
        simpa using same

/-- The rules of each type can be told from the rule set. -/
theorem rules_eq (store : Store) (type : String) :
    store.rules type = (store.ruleSet.toList.filter (·.type == type)).map (·.fields) := by
  rw [ruleSet, RuleSet.filter_toList_ofList, filter_rules store.tables.ordered]
  rfl

end Store

namespace State

/-- Two states of one compiled model with the same grouping rules in the same order. -/
structure SharesLinks (one other : State) : Prop where
  compiled : one.compiled = other.compiled
  rules : ∀ type, isGroupingType type = true → one.store.rules type = other.store.rules type

section
variable [Regex.Engine]

/-- States of one compiled model have role relations for the same types. -/
theorem Orderly.find?_roles {one other : State} (orderly : one.Orderly) (orderly' : other.Orderly)
    (compiled : one.compiled = other.compiled) (type : String) :
    (one.roles.find? type = none ∧ other.roles.find? type = none) ∨
      ∃ relation relation', one.roles.find? type = some relation ∧
        other.roles.find? type = some relation' := by
  have names : one.roles.names = other.roles.names := by
    rw [orderly.sound.relations, orderly'.sound.relations, compiled]
  cases here : one.roles.find? type with
  | none =>
    refine .inl ⟨rfl, ?_⟩
    rw [Option.eq_none_iff_forall_ne_some]
    intro relation there
    have listed := (Catalogue.mem_names_iff _ _).2 ⟨relation, there⟩
    obtain ⟨relation', found⟩ := (Catalogue.mem_names_iff _ _).1 (names ▸ listed)
    rw [here] at found
    cases found
  | some relation =>
    have listed := (Catalogue.mem_names_iff _ _).2 ⟨relation, here⟩
    obtain ⟨relation', there⟩ := (Catalogue.mem_names_iff _ _).1 (names ▸ listed)
    exact .inr ⟨relation, relation', rfl, there⟩

/-- A rule comes to the same in states of one compiled model whose relations answer alike. -/
theorem outcome_congr {one other : State} (compiled : one.compiled = other.compiled)
    {request rule : List String}
    (agree : Term.Agree ⟨request, rule, one.roles⟩ ⟨request, rule, other.roles⟩) :
    one.outcome request rule = other.outcome request rule := by
  unfold outcome statedEffect
  rw [one.compiled.matcher.eval_congr agree, compiled]

namespace SharesLinks
variable {one other : State} (orderly : one.Orderly) (orderly' : other.Orderly)
  (shares : one.SharesLinks other)
include orderly orderly' shares

/-- The relations of a type record the same rules, if there are any. -/
theorem relations (type : String) :
    (one.roles.find? type = none ∧ other.roles.find? type = none) ∨
      ∃ relation relation', one.roles.find? type = some relation ∧
        other.roles.find? type = some relation' ∧
        ∀ name domain?, relation.rolesOf name domain? = relation'.rolesOf name domain? := by
  apply (orderly.find?_roles orderly' shares.compiled type).imp_right
  rintro ⟨relation, relation', here, there⟩
  have listed := (Catalogue.mem_names_iff _ _).2 ⟨relation, here⟩
  have grouping := orderly.sound.keyed.isGroupingType (orderly.sound.relations ▸ listed)
  have records := orderly.recorded type relation here
  have records' := orderly'.recorded type relation' there
  refine ⟨relation, relation', here, there, ?_⟩
  intro name domain?
  change relation.rolesOf name (some (domain?.getD defaultDomain)) =
    relation'.rolesOf name (some (domain?.getD defaultDomain))
  rw [records, records', shares.rules type grouping]

theorem agree (request rule : List String) :
    Term.Agree ⟨request, rule, one.roles⟩ ⟨request, rule, other.roles⟩ := by
  refine ⟨rfl, rfl, ?_⟩
  intro type member role domain?
  unfold Term.isLinked
  rcases relations orderly orderly' shares type with ⟨none, none'⟩ |
    ⟨relation, relation', here, there, direct⟩
  · simp only [none, none']
  · simp only [here, there]
    exact RoleRelation.reaches_congr direct member role domain?

/-- A rule comes to the same in both, wherever it stands and whether it is there or not. -/
theorem outcome_eq (request rule : List String) : one.outcome request rule = other.outcome request rule :=
  outcome_congr shares.compiled (agree orderly orderly' shares request rule)

end SharesLinks

end

/-- Two states of one compiled model with the same rules in the same order. -/
structure Matches (one other : State) : Prop where
  compiled : one.compiled = other.compiled
  rules : ∀ type, one.store.rules type = other.store.rules type

namespace Matches
variable {one other : State}

theorem sharesLinks (same : one.Matches other) : one.SharesLinks other :=
  ⟨same.compiled, fun type _ => same.rules type⟩

variable [Regex.Engine] (orderly : one.Orderly) (orderly' : other.Orderly) (same : one.Matches other)
include orderly orderly' same

theorem decision_eq (request : List String) : one.decision request = other.decision request := by
  have outcomes : one.outcome request = other.outcome request :=
    funext fun rule => same.sharesLinks.outcome_eq orderly orderly' request rule
  have deciding : one.deciding = other.deciding := by
    unfold State.deciding
    rw [same.compiled, same.rules]
  unfold decision
  rw [outcomes, deciding, verdictOf_congr same.compiled, same.compiled]

theorem has_eq (type : String) (fields : List String) :
    one.store.has type fields = other.store.has type fields := by
  rw [Bool.eq_iff_iff, orderly.sound.has_iff, orderly'.sound.has_iff, same.rules]

end Matches
end State

namespace Enforcer

section
variable [Regex.Engine]

/-- Two enforcers that answer every question alike, except for the order in which members are listed. -/
structure Alike (one other : Enforcer) : Prop where
  enforce : ∀ request, one.enforce request = other.enforce request
  get : ∀ type, one.get type = other.get type
  filtered : ∀ type index values, one.filtered type index values = other.filtered type index values
  has : ∀ type fields, one.has type fields = other.has type fields
  roles : ∀ user domain?, one.roles user domain? = other.roles user domain?
  implicitRoles : ∀ user domain?, one.implicitRoles user domain? = other.implicitRoles user domain?
  hasRole : ∀ user role domain?, one.hasRole user role domain? = other.hasRole user role domain?
  permissions : ∀ user, one.permissions user = other.permissions user
  implicitPermissions : ∀ user domain?,
    one.implicitPermissions user domain? = other.implicitPermissions user domain?
  users : ∀ role domain?, (one.users role domain?).Perm (other.users role domain?)

/-- What is kept of earlier decisions goes with the matcher, and the state is as it should be. -/
structure Settled (enforcer : Enforcer) : Prop where
  orderly : enforcer.state.Orderly
  coherent : enforcer.patterns.Coherent

theorem settled_of_reachable {enforcer : Enforcer} (reachable : enforcer.Reachable) :
    enforcer.Settled :=
  ⟨orderly_of_reachable reachable, (ready_of_reachable reachable).coherent⟩

theorem Settled.ready {enforcer : Enforcer} (settled : enforcer.Settled) : enforcer.Ready :=
  ⟨settled.orderly.sound, settled.orderly.compiles, settled.coherent⟩

variable {one other : Enforcer}

/-- The relations that answer questions about roles list the same roles for every name. -/
theorem relation_of_matches (settled : one.Settled) (settled' : other.Settled)
    (same : one.state.Matches other.state) (name : String) (domain? : Option String) :
    one.relation.rolesOf name domain? = other.relation.rolesOf name domain? := by
  unfold relation
  rcases same.sharesLinks.relations settled.orderly settled'.orderly roleType with ⟨none, none'⟩ |
    ⟨relation, relation', here, there, direct⟩
  · rw [none, none']
  · rw [here, there]
    exact direct name domain?

/-- Enforcers with matching states answer alike, whatever is left behind in them. -/
theorem alike_of_matches (settled : one.Settled) (settled' : other.Settled)
    (same : one.state.Matches other.state) : one.Alike other := by
  have rules : ∀ type, one.get type = other.get type := same.rules
  have filtered : ∀ type index values,
      one.filtered type index values = other.filtered type index values := by
    intro type index values
    unfold Enforcer.filtered Store.filtered
    rw [same.rules]
  have direct := relation_of_matches settled settled' same
  have roles : ∀ user domain?, one.roles user domain? = other.roles user domain? := direct
  have implicitRoles : ∀ user domain?,
      one.implicitRoles user domain? = other.implicitRoles user domain? :=
    RoleRelation.allRolesOf_congr direct
  constructor
  · intro request
    rw [settled.ready.enforce_eq, settled'.ready.enforce_eq]
    exact State.Matches.decision_eq settled.orderly settled'.orderly same request
  · exact rules
  · exact filtered
  · exact State.Matches.has_eq settled.orderly settled'.orderly same
  · exact roles
  · exact implicitRoles
  · intro user role domain?
    rw [Enforcer.hasRole, Enforcer.hasRole, roles]
  · exact fun user => filtered permissionType 0 [user]
  · intro user domain?
    unfold implicitPermissions isForDomain
    rw [implicitRoles, rules, same.compiled]
  · exact RoleRelation.membersOf_perm direct

theorem Settled.compiled_eq (settled : one.Settled) (settled' : other.Settled)
    (model : one.model = other.model) : one.state.compiled = other.state.compiled := by
  have compiles := settled.orderly.compiles
  change CompiledModel.compile one.model = _ at compiles
  rw [model] at compiles
  exact Except.ok.inj (compiles.symm.trans settled'.orderly.compiles)

theorem Settled.matches_of_rules (settled : one.Settled) (settled' : other.Settled)
    (model : one.model = other.model) (rules : one.rules = other.rules) :
    one.state.Matches other.state := by
  refine ⟨settled.compiled_eq settled' model, ?_⟩
  intro type
  change one.state.store.ruleSet = other.state.store.ruleSet at rules
  rw [Store.rules_eq, Store.rules_eq, rules]

/-- Whatever operations have led to two enforcers, if they have the same model and the same rules, they
give the same answers. -/
theorem answers_without_history (reachable : one.Reachable) (reachable' : other.Reachable)
    (model : one.model = other.model) (rules : one.rules = other.rules) : one.Alike other := by
  have settled := settled_of_reachable reachable
  have settled' := settled_of_reachable reachable'
  exact alike_of_matches settled settled' (settled.matches_of_rules settled' model rules)

end

/-- One enforcer has only been given its rules; in the other one links came and went and came again, an
addition failed, and a request was decided. -/
theorem answers_without_history_of_tenants :
    (run { Tenants.enforcer with storage? := none }
      [.add "p" ["admin", "one", "allow"], .addRole "alice" "admin" (some "one"),
        .addRole "bob" "admin" (some "one")]).Alike
    (run { Tenants.enforcer with storage? := some (.text "rules") }
      [.addRole "bob" "admin" (some "one"), .addRole "carol" "bob" (some "two"),
        .add "p" ["admin", "one", "allow"], .decide ["bob", "one"],
        .addRole "alice" "admin" (some "one"), .add "p" ["bob", "one", "never"], .deleteRole "bob",
        .deleteRoleForUser "bob" "admin" (some "one"), .addRole "bob" "admin" (some "one")]) := by
  apply answers_without_history
  · exact .intro Tenants.ofText_text Tenants.ofModel_model none _
  · exact .intro Tenants.ofText_text Tenants.ofModel_model (some (.text "rules")) _
  · trans Tenants.model
    · with_unfolding_all rfl
    · symm
      with_unfolding_all rfl
  · decide +kernel

end Enforcer
end AccessControl
