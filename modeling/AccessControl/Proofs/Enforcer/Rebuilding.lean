import AccessControl.Proofs.Enforcer.History
/-!
States built anew from their rules. What adding or removing a rule does is worked out from the declared
tables and the rules alone. Therefore the rules of a state, added one after another to the state without
rules, are all accepted, and the state that they lead to has the same rules in the same order.
-/
namespace AccessControl

namespace Model

theorem isGroupingType_of_policy {type : String} (key : Part.ofKey? type.toList = some .policy) :
    isGroupingType type = false := by
  unfold Part.ofKey? at key
  unfold isGroupingType
  split at key <;> simp_all

end Model

namespace RuleTable

/-- The check of a rule depends on what is declared for its type, and not on the other rules. -/
theorem validate_cleared (table : RuleTable) (type : String) (fields : List String) :
    table.cleared.validate type fields = table.validate type fields := rfl

end RuleTable

/-- A rule is among some rules if its fields are among those of its type. -/
theorem Rule.fields_mem_iff {rules : List Rule} {rule : Rule} :
    rule.fields ∈ (rules.filter (·.type == rule.type)).map (·.fields) ↔ rule ∈ rules := by
  rw [List.mem_map]
  constructor
  · rintro ⟨other, inside, fields⟩
    obtain ⟨listed, type⟩ := List.mem_filter.1 inside
    have same : other = rule := by
      cases other
      cases rule
      simp_all
    exact same ▸ listed
  · intro inside
    exact ⟨rule, List.mem_filter.2 ⟨inside, by simp⟩, rfl⟩

namespace Store
variable {store : Store}

theorem mem_ruleSet {rule : Rule} :
    rule ∈ store.ruleSet.toList ↔ rule.fields ∈ store.rules rule.type := by
  rw [rules_eq, Rule.fields_mem_iff]

theorem add_eq {type : String} {table : RuleTable} (found : store.tables.find? type = some table)
    (fields : List String) : store.add type fields = (table.validate type fields >>= fun _ =>
      if table.index.has fields = true then .ok (false, store)
      else .ok (true, store.withTable type (·.insert fields))) := by
  unfold add validate
  rw [table_eq_ok.2 found, has_of_find? found]
  rfl

theorem remove_eq {type : String} {table : RuleTable} (found : store.tables.find? type = some table)
    (fields : List String) : store.remove type fields =
      if table.index.has fields = true then .ok (true, store.withTable type (·.erase fields))
      else .ok (false, store) := by
  unfold remove
  rw [table_eq_ok.2 found, has_of_find? found]
  rfl

/-- Where no type has a rule twice, the rule set has none twice. -/
theorem nodup_ruleSet (distinct : ∀ type, (store.rules type).Nodup) : store.ruleSet.toList.Nodup := by
  rw [List.nodup_iff_sublist]
  intro rule twice
  have picked := (twice.filter (·.type == rule.type)).map (·.fields)
  rw [← rules_eq] at picked
  refine List.nodup_iff_sublist.1 (distinct rule.type) rule.fields ?_
  simpa using picked

end Store

namespace State

theorem rules_withChanged {state : State} {type : String} {table : RuleTable}
    (found : state.store.tables.find? type = some table) (change : RuleTable → RuleTable)
    (relink : RoleRelation → RoleRelation) (other : String) :
    (state.withChanged type change relink).store.rules other =
      if other = type then (change table).rules else state.store.rules other := by
  change (state.store.withTable type change).rules other = _
  by_cases same : other = type
  · rw [if_pos same, same, Store.rules_withTable_self change found]
  · rw [if_neg same, Store.rules_withTable_other change same]

namespace Sound
variable {state : State} (sound : state.Sound) {type : String}
include sound

theorem has_roles {table : RuleTable} (found : state.store.tables.find? type = some table)
    (grouping : isGroupingType type = true) : state.roles.has type = true := by
  rw [Catalogue.has_iff_mem_names, sound.relations]
  have known : type ∈ state.store.types := (Catalogue.mem_names_iff _ _).2 ⟨table, found⟩
  rcases sound.mem_types.1 known with policy | role
  · rw [Model.isGroupingType_of_policy (sound.keyed.policy type policy)] at grouping
    cases grouping
  · exact role

/-- A change of a known table is always followed by the relation of its type. -/
theorem relinked {table : RuleTable} (found : state.store.tables.find? type = some table)
    (change : RuleTable → RuleTable) (relink : RoleRelation → RoleRelation) {α : Type} (answer : α) :
    (if isGroupingType type = true then do
        let linked ← withRelation { state with store := state.store.withTable type change } type relink
        return (answer, linked)
      else return (answer, { state with store := state.store.withTable type change })) =
        Except.ok (ε := Error) (answer, state.withChanged type change relink) := by
  unfold State.withChanged
  cases grouping : isGroupingType type with
  | false => rfl
  | true =>
    have known : (State.mk state.compiled (state.store.withTable type change) state.roles).roles.has type =
        true := sound.has_roles found grouping
    rw [if_pos rfl, withRelation_eq_ok.2 ⟨known, rfl⟩]
    rfl

theorem addRule_eq (type : String) (fields : List String) : state.addRule type fields = (do
    let table ← state.store.table type
    table.validate type fields
    if fields ∈ table.rules then return (false, state)
    else return (true, state.withChanged type (·.insert fields) (addLink fields))) := by
  unfold State.addRule
  cases found : state.store.tables.find? type with
  | none =>
    have unknown : state.store.table type = .error (.unknownType type) := by rw [Store.table, found]
    rw [Store.add, Store.validate, unknown]
    rfl
  | some table =>
    have indexed := (sound.tables type table found).indexed fields
    rw [Store.add_eq found, Store.table_eq_ok.2 found]
    change _ = (table.validate type fields >>= fun _ =>
      if fields ∈ table.rules then Except.ok (false, state)
      else Except.ok (true, state.withChanged type (·.insert fields) (addLink fields)))
    cases table.validate type fields with
    | error error => rfl
    | ok _ =>
      by_cases present : fields ∈ table.rules
      · rw [if_pos (indexed.2 present)]
        exact (if_pos present).symm
      · have absent : ¬table.index.has fields = true := fun has => present (indexed.1 has)
        rw [if_neg absent]
        exact (sound.relinked found (·.insert fields) (addLink fields) true).trans (if_neg present).symm

/-- A rule is checked against what is declared for its type, and against nothing else. -/
theorem checked_addRule (type : String) (fields : List String) : (state.addRule type fields).map (fun _ => ()) =
    (Store.ofModel state.compiled.model).validate type fields := by
  rw [sound.addRule_eq]
  unfold Store.validate Store.table
  rw [← sound.declared]
  cases state.store.tables.find? type with
  | none => rfl
  | some table =>
    change (table.validate type fields >>= fun _ => ite _ _ _).map _ = table.cleared.validate type fields
    rw [RuleTable.validate_cleared]
    cases table.validate type fields with
    | error error => rfl
    | ok _ =>
      change (ite _ _ _ : Except Error (Bool × State)).map _ = _
      split <;> rfl

theorem addRule_eq_error {type : String} {fields : List String} {error : Error} :
    state.addRule type fields = .error error ↔
      (Store.ofModel state.compiled.model).validate type fields = .error error := by
  rw [← sound.checked_addRule, Result.map_eq_error]

theorem validate_of_addRule {type : String} {fields : List String} {result : Bool × State}
    (done : state.addRule type fields = .ok result) :
    (Store.ofModel state.compiled.model).validate type fields = .ok () := by
  rw [← sound.checked_addRule, done]
  rfl

/-- Rules are added if all of them pass their checks, or else the first that does not is at fault, whatever has
been added before it. -/
theorem addAll_cases (rules : List Rule) :
    ((∀ rule ∈ rules, (Store.ofModel state.compiled.model).validate rule.type rule.fields = .ok ()) ∧
        ∃ after, state.addAll rules = .ok after) ∨
      ∃ before rule later error, rules = before ++ rule :: later ∧
        (∀ earlier ∈ before,
          (Store.ofModel state.compiled.model).validate earlier.type earlier.fields = .ok ()) ∧
        state.addRule rule.type rule.fields = .error error ∧ state.addAll rules = .error error := by
  induction rules generalizing state with
  | nil => exact .inl ⟨by simp, state, rfl⟩
  | cons rule rest ih =>
    cases added : state.addRule rule.type rule.fields with
    | error error =>
      refine .inr ⟨[], rule, rest, error, rfl, by simp, added, ?_⟩
      rw [addAll, added]
      rfl
    | ok result =>
      have valid := sound.validate_of_addRule added
      have goesOn : state.addAll (rule :: rest) = result.2.addAll rest := by
        rw [addAll, added]
        rfl
      have later := ih (sound.addRule added)
      rw [(Leads.addRule .refl added).compiled_eq] at later
      rcases later with ⟨others, after, done⟩ | ⟨before, faulty, behind, error, rfl, others, refused, all⟩
      · exact .inl ⟨List.forall_mem_cons.2 ⟨valid, others⟩, after, goesOn.trans done⟩
      · refine .inr ⟨rule :: before, faulty, behind, error, rfl, List.forall_mem_cons.2 ⟨valid, others⟩, ?_,
          goesOn.trans all⟩
        rw [(sound.addRule added).addRule_eq_error, (Leads.addRule .refl added).compiled_eq] at refused
        exact sound.addRule_eq_error.2 refused

theorem removeRule_eq (type : String) (fields : List String) : state.removeRule type fields = (do
    let table ← state.store.table type
    if fields ∈ table.rules then
      return (true, state.withChanged type (·.erase fields) (removeLink fields))
    else return (false, state)) := by
  unfold State.removeRule
  cases found : state.store.tables.find? type with
  | none =>
    have unknown : state.store.table type = .error (.unknownType type) := by rw [Store.table, found]
    rw [Store.remove, unknown]
    rfl
  | some table =>
    have indexed := (sound.tables type table found).indexed fields
    rw [Store.remove_eq found, Store.table_eq_ok.2 found]
    change _ = if fields ∈ table.rules then
        Except.ok (true, state.withChanged type (·.erase fields) (removeLink fields))
      else Except.ok (false, state)
    by_cases present : fields ∈ table.rules
    · rw [if_pos (indexed.2 present), if_pos present]
      exact sound.relinked found (·.erase fields) (removeLink fields) true
    · have absent : ¬table.index.has fields = true := fun has => present (indexed.1 has)
      rw [if_neg absent, if_neg present]
      rfl

/-- A new rule that fits what is declared for its type is added after the others of the type. -/
theorem exists_addRule {rule : Rule} (valid : ∃ table,
      (Store.ofModel state.compiled.model).tables.find? rule.type = some table ∧
        table.validate rule.type rule.fields = .ok ())
    (fresh : rule.fields ∉ state.store.rules rule.type) :
    ∃ after, state.addRule rule.type rule.fields = .ok (true, after) ∧ ∀ type,
      after.store.rules type = state.store.rules type ++ if rule.type = type then [rule.fields] else [] := by
  obtain ⟨bare, declared, accepted⟩ := valid
  rw [← sound.declared] at declared
  obtain ⟨table, found, rfl⟩ := Option.map_eq_some_iff.1 declared
  rw [RuleTable.validate_cleared] at accepted
  rw [Store.rules_of_find? found] at fresh
  refine ⟨state.withChanged rule.type (·.insert rule.fields) (addLink rule.fields), ?_, ?_⟩
  · rw [sound.addRule_eq, Store.table_eq_ok.2 found]
    change (table.validate rule.type rule.fields >>= fun _ => ite _ _ _) = _
    rw [accepted]
    exact if_neg fresh
  · intro type
    rw [rules_withChanged found]
    by_cases same : type = rule.type
    · rw [if_pos same, if_pos same.symm, same, Store.rules_of_find? found]
      rfl
    · rw [if_neg same, if_neg (Ne.symm same), List.append_nil]

/-- New rules that fit what is declared for their types are all added, each after those of its type. -/
theorem exists_addAll {rules : List Rule}
    (valid : ∀ rule ∈ rules, ∃ table,
      (Store.ofModel state.compiled.model).tables.find? rule.type = some table ∧
        table.validate rule.type rule.fields = .ok ())
    (fresh : ∀ rule ∈ rules, rule.fields ∉ state.store.rules rule.type) (distinct : rules.Nodup) :
    ∃ after, state.addAll rules = .ok after ∧ ∀ type, after.store.rules type =
      state.store.rules type ++ (rules.filter (·.type == type)).map (·.fields) := by
  induction rules generalizing state with
  | nil => exact ⟨state, rfl, fun type => (List.append_nil _).symm⟩
  | cons rule rest ih =>
    rw [List.forall_mem_cons] at valid fresh
    obtain ⟨otherwise, distinctRest⟩ := List.nodup_cons.1 distinct
    obtain ⟨middle, added, listed⟩ := sound.exists_addRule valid.1 fresh.1
    have validRest := valid.2
    rw [← (State.Leads.addRule .refl added).compiled_eq] at validRest
    have freshRest : ∀ other ∈ rest, other.fields ∉ middle.store.rules other.type := by
      intro other inside known
      rw [listed, List.mem_append] at known
      rcases known with old | new
      · exact fresh.2 other inside old
      · split at new
        next same =>
          have equal : other = rule := by
            cases other
            cases rule
            simp_all
          exact otherwise (equal ▸ inside)
        next => cases new
    obtain ⟨after, later, rules⟩ := ih (sound.addRule added) validRest freshRest distinctRest
    refine ⟨after, ?_, ?_⟩
    · unfold State.addAll
      rw [added]
      exact later
    · intro type
      rw [rules, listed]
      by_cases same : rule.type = type
      · simp [same]
      · simp [same]

/-- Rules that are all added fit what is declared for their types. -/
theorem valid_of_addAll {after : State} {rules : List Rule} (done : state.addAll rules = .ok after) :
    ∀ rule ∈ rules, ∃ table, (Store.ofModel state.compiled.model).tables.find? rule.type = some table ∧
      table.validate rule.type rule.fields = .ok () := by
  rcases sound.addAll_cases rules with ⟨valid, -⟩ | ⟨_, _, _, _, -, -, -, failed⟩
  · exact fun rule inside => Store.validate_eq_ok.1 (valid rule inside)
  · rw [failed] at done
    cases done

/-- A compiled model takes over the rules of a state if they all fit it, and keeps their order. -/
theorem exists_ofRules {compiled : CompiledModel} (keyed : compiled.model.Keyed)
    (valid : ∀ rule ∈ state.store.ruleSet.toList, ∃ table,
      (Store.ofModel compiled.model).tables.find? rule.type = some table ∧
        table.validate rule.type rule.fields = .ok ()) :
    ∃ after, ofRules compiled state.store.ruleSet = .ok after ∧
      ∀ type, after.store.rules type = state.store.rules type := by
  have fresh : ∀ rule ∈ state.store.ruleSet.toList,
      rule.fields ∉ (Store.ofModel compiled.model).rules rule.type := by
    intro rule _
    rw [Store.rules_ofModel]
    exact List.not_mem_nil
  obtain ⟨after, added, rules⟩ := (sound_ofModel keyed).exists_addAll valid fresh
    (Store.nodup_ruleSet fun type => sound.nodup_rules)
  refine ⟨after, added, ?_⟩
  intro type
  rw [rules]
  change (Store.ofModel compiled.model).rules type ++ _ = _
  rw [Store.rules_ofModel, List.nil_append, ← Store.rules_eq]

end Sound

/-- The state that is built from the rules of a state has these rules, in the same order. -/
theorem Orderly.rebuilt [Regex.Engine] {state : State} (orderly : state.Orderly) :
    ∃ after, ofRules state.compiled state.store.ruleSet = .ok after ∧ after.Orderly ∧
      after.Matches state := by
  obtain ⟨after, built, rules⟩ := orderly.sound.exists_ofRules orderly.sound.keyed <| by
    intro rule inside
    obtain ⟨table, found, valid⟩ := orderly.sound.exists_table (Store.mem_ruleSet.1 inside)
    exact ⟨table.cleared, orderly.sound.declared_of_find? found, valid⟩
  have leads := Leads.addAll .refl built
  exact ⟨after, built, orderly.withoutRules.leads leads, leads.compiled_eq, rules⟩

end State
end AccessControl
