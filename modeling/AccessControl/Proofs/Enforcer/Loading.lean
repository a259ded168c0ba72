import AccessControl.Proofs.Enforcer.Rebuilding
/-!
Rule sets that are loaded. The rules are added one after another to a state without rules: the first that does
not fit the model ends the loading, and if all fit, each type has its rules in their order, every rule once.
-/
namespace AccessControl

/-- The rules of one type among some rules, in their order. -/
def Rule.ofType (type : String) (rules : List Rule) : List (List String) :=
  (rules.filter (·.type == type)).map (·.fields)

theorem Rule.mem_ofType {rules : List Rule} {rule : Rule} :
    rule.fields ∈ ofType rule.type rules ↔ rule ∈ rules := fields_mem_iff

theorem Rule.ofType_map (type : String) (fields : List (List String)) :
    ofType type (fields.map (Rule.mk type)) = fields := by
  simp [ofType, List.filter_map, Function.comp_def]

theorem Rule.ofType_append (type : String) (rules more : List Rule) :
    ofType type (rules ++ more) = ofType type rules ++ ofType type more := by
  simp [ofType, List.filter_append]

theorem Rule.ofType_concat (type : String) (rules : List Rule) (rule : Rule) :
    ofType type (rules ++ [rule]) =
      if rule.type = type then ofType type rules ++ [rule.fields] else ofType type rules := by
  unfold ofType
  by_cases same : rule.type = type
  · simp [same]
  · simp [same]

theorem eraseDups_concat {α : Type} [BEq α] [LawfulBEq α] {values : List α} {value : α} :
    (value ∈ values → (values ++ [value]).eraseDups = values.eraseDups) ∧
      (value ∉ values → (values ++ [value]).eraseDups = values.eraseDups ++ [value]) := by
  rw [List.eraseDups_append]
  constructor
  · intro known
    simp [List.removeAll, known]
  · intro new
    simp [List.removeAll, new, List.eraseDups_cons]

theorem eraseDups_of_nodup {α : Type} [BEq α] [LawfulBEq α] {values : List α} (distinct : values.Nodup) :
    values.eraseDups = values := by
  induction values with
  | nil => rfl
  | cons value rest ih =>
    obtain ⟨otherwise, distinctRest⟩ := List.nodup_cons.1 distinct
    have apart : rest.filter (fun other => !other == value) = rest :=
      List.filter_eq_self.2 fun other inside => by simpa using fun same : other = value => otherwise (same ▸ inside)
    rw [List.eraseDups_cons, apart, ih distinctRest]

/-- How a rule fails to fit a model, and the error that tells it. -/
inductive Rule.Misfit (model : Model) (rule : Rule) : Error → Prop
  | unknownType (policy : rule.type ∉ model.policies.names) (role : rule.type ∉ model.roles.names) :
      Misfit model rule (.unknownType rule.type)
  | ruleArity {table : RuleTable} (declared : (Store.ofModel model).tables.find? rule.type = some table)
      (long : rule.fields.length ≠ table.arity) :
      Misfit model rule (.ruleArity rule.type table.arity rule.fields.length)
  | lineBreak {index : Nat} {field : String} (placed : rule.fields[index]? = some field)
      (breaks : '\r' ∈ field.toList ∨ '\n' ∈ field.toList) : Misfit model rule (.lineBreak rule.type index)
  | effectValue {table : RuleTable} (declared : (Store.ofModel model).tables.find? rule.type = some table)
      {index : Nat} (effect : table.effectIndex? = some index) {word : String}
      (placed : rule.fields[index]? = some word) (other : word ≠ "allow" ∧ word ≠ "deny") :
      Misfit model rule (.effectValue word)

namespace Rule.Misfit
variable {model : Model} {rule : Rule} {error : Error}

/-- A rule is refused for what is wrong with it. -/
theorem of_validate {table : RuleTable} (declared : (Store.ofModel model).tables.find? rule.type = some table)
    (refused : table.validate rule.type rule.fields = .error error) : rule.Misfit model error := by
  unfold RuleTable.validate at refused
  split at refused
  next long =>
    cases refused
    exact .ruleArity declared long
  next =>
    split at refused
    next index broken =>
      cases refused
      obtain ⟨short, breaks, -⟩ := List.findIdx?_eq_some_iff_getElem.1 broken
      refine .lineBreak (List.getElem?_eq_getElem short) ?_
      simpa [breaksLine, and_or_left, exists_or] using breaks
    next =>
      split at refused
      · cases refused
      next word effect =>
        obtain ⟨index, placed, found⟩ := Option.bind_eq_some_iff.1 effect
        split at refused
        next => cases refused
        next unnamed =>
          cases refused
          refine .effectValue declared placed found ⟨?_, ?_⟩
          · rintro rfl
            exact unnamed rfl
          · rintro rfl
            exact unnamed rfl

end Rule.Misfit

namespace State.Sound
variable {state : State} (sound : state.Sound)
include sound

/-- A rule that is not added does not fit the model. -/
theorem misfit_of_addRule {rule : Rule} {error : Error}
    (failed : state.addRule rule.type rule.fields = .error error) :
    rule.Misfit state.compiled.model error := by
  have refused := sound.addRule_eq_error.1 failed
  unfold Store.validate Store.table at refused
  cases declared : (Store.ofModel state.compiled.model).tables.find? rule.type with
  | none =>
    rw [declared] at refused
    cases refused
    have missing : rule.type ∉ state.store.types := by
      rw [Store.types, Catalogue.mem_names_iff]
      rintro ⟨table, found⟩
      rw [sound.declared_of_find? found] at declared
      cases declared
    rw [sound.mem_types, not_or] at missing
    exact .unknownType missing.1 missing.2
  | some table =>
    rw [declared] at refused
    exact .of_validate declared refused

/-- Some rule does not fit the model if not all rules are added. -/
theorem exists_misfit {rules : List Rule} {error : Error} (failed : state.addAll rules = .error error) :
    ∃ rule ∈ rules, rule.Misfit state.compiled.model error := by
  rcases sound.addAll_cases rules with ⟨-, after, done⟩ | ⟨_, rule, _, _, rfl, -, refused, all⟩
  · rw [failed] at done
    cases done
  · cases all.symm.trans failed
    exact ⟨rule, by simp, sound.misfit_of_addRule refused⟩

/-- A rule is added after those of its type, unless it is one of them. -/
theorem rules_addRule {type : String} {fields : List String} {added : Bool} {after : State}
    (done : state.addRule type fields = .ok (added, after)) (other : String) :
    after.store.rules other =
      if type = other ∧ fields ∉ state.store.rules type then state.store.rules other ++ [fields]
      else state.store.rules other := by
  obtain ⟨table, found, -, ⟨-, present, rfl⟩ | ⟨-, absent, rfl⟩⟩ := addRule_cases done
  · have known : fields ∈ after.store.rules type := by
      rw [← sound.has_iff, Store.has_of_find? found]
      exact present
    rw [if_neg fun new => new.2 known]
  · have new : fields ∉ state.store.rules type := by
      rw [← sound.has_iff, Store.has_of_find? found, absent]
      exact Bool.false_ne_true
    rw [rules_withChanged found]
    by_cases same : other = type
    · rw [if_pos same, if_pos ⟨same.symm, new⟩, same, Store.rules_of_find? found]
      rfl
    · rw [if_neg same, if_neg fun new => same new.1.symm]

/-- The rules of a state and those that are added are kept in their order, each of them once. -/
theorem rules_addAll {rules before : List Rule} {after : State} (done : state.addAll rules = .ok after)
    (known : ∀ type, state.store.rules type = (Rule.ofType type before).eraseDups) (type : String) :
    after.store.rules type = (Rule.ofType type (before ++ rules)).eraseDups := by
  induction rules generalizing state before with
  | nil =>
    cases done
    rw [List.append_nil]
    exact known type
  | cons rule rest ih =>
    obtain ⟨⟨isNew, middle⟩, added, later⟩ := Result.bind_eq_ok.1 done
    have listed : ∀ type, middle.store.rules type = (Rule.ofType type (before ++ [rule])).eraseDups := by
      intro type
      have old : rule.fields ∈ state.store.rules rule.type ↔ rule.fields ∈ Rule.ofType rule.type before := by
        rw [known, List.mem_eraseDups]
      rw [sound.rules_addRule added, Rule.ofType_concat, known type]
      by_cases same : rule.type = type
      · subst same
        by_cases present : rule.fields ∈ state.store.rules rule.type
        · rw [if_neg fun new => new.2 present, if_pos rfl, eraseDups_concat.1 (old.1 present)]
        · rw [if_pos ⟨rfl, present⟩, if_pos rfl, eraseDups_concat.2 (mt old.2 present)]
      · rw [if_neg fun new => same new.1, if_neg same]
    have all := ih (sound.addRule added) later listed
    rwa [List.append_assoc] at all

end State.Sound

namespace Enforcer
variable [Regex.Engine] {enforcer after : Enforcer} {rules : RuleSet}

/-- What it means that an enforcer has given up its rules for those of a rule set: its state is the one
that they alone make up, and it has exactly these rules, in their order and each of them once. -/
structure TakesOver (enforcer : Enforcer) (rules : RuleSet) (after : Enforcer) : Prop where
  compiled : after.state.compiled = enforcer.state.compiled
  storage : after.storage? = enforcer.storage?
  built : State.ofRules enforcer.state.compiled rules = .ok after.state
  listed : ∀ type, after.get type = (Rule.ofType type rules.toList).eraseDups
  consistent : after.Consistent
  reachable : after.Reachable

theorem takesOver_of_replaceRules (reachable : enforcer.Reachable)
    (done : enforcer.replaceRules rules = .ok after) : enforcer.TakesOver rules after := by
  have settled := settled_of_reachable reachable
  have empty := settled.orderly.withoutRules
  obtain ⟨state, built, same⟩ := Result.bind_eq_ok.1 done
  cases same
  have reached := reachable.run [.replaceRules rules]
  change (enforcer.orKeep (enforcer.replaceRules rules)).Reachable at reached
  rw [done] at reached
  refine ⟨(State.Leads.addAll .refl built).compiled_eq, rfl, built, ?_,
    consistent_of_sound (sound_of_reachable reached), reached⟩
  intro type
  have bare : ∀ type, (State.ofModel enforcer.state.compiled).store.rules type =
      (Rule.ofType type []).eraseDups := fun type => Store.rules_ofModel _ type
  exact empty.sound.rules_addAll built bare type

theorem misfit_of_replaceRules (reachable : enforcer.Reachable) {error : Error}
    (failed : enforcer.replaceRules rules = .error error) :
    ∃ rule ∈ rules.toList, rule.Misfit enforcer.model error := by
  have empty := (settled_of_reachable reachable).orderly.withoutRules
  apply empty.sound.exists_misfit
  unfold replaceRules at failed
  cases built : State.ofRules enforcer.state.compiled rules with
  | error error' =>
    rw [built] at failed
    cases failed
    exact built
  | ok state =>
    rw [built] at failed
    cases failed

end Enforcer
end AccessControl
