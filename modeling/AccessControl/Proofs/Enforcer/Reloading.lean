import AccessControl.Proofs.Enforcer.Rebuilding
import AccessControl.Proofs.Storage.Saving
/-!
Saving and loading the policy of an enforcer. The types of a model are such words, and its rules such
fields, that every rule of a reachable enforcer is read back from its row. So the rules of an enforcer come
back from a storage, and the state that is built from them answers as before.
-/
namespace AccessControl

namespace Model

/-- A type is a letter with digits after it. -/
theorem letters_of_type {key : List Char}
    (kind : Part.ofKey? key = some .policy ∨ Part.ofKey? key = some .role) :
    key ≠ [] ∧ ∀ c ∈ key, c = 'p' ∨ c = 'g' ∨ c.isDigit = true := by
  rcases kind with policy | role
  · obtain ⟨digits, rfl, numbered, -⟩ := Part.exists_digits policy
    refine ⟨List.cons_ne_nil _ _, List.forall_mem_cons.2 ⟨.inl rfl, ?_⟩⟩
    exact fun c inside => .inr (.inr (numbered c inside))
  · obtain ⟨digits, rfl, numbered, -⟩ := Part.exists_digits role
    refine ⟨List.cons_ne_nil _ _, List.forall_mem_cons.2 ⟨.inr (.inl rfl), ?_⟩⟩
    exact fun c inside => .inr (.inr (numbered c inside))

/-- No policy definition has more fields than a table has columns. -/
def FitsTable (model : Model) : Prop :=
  ∀ type names, model.policies.find? type = some names → names.length ≤ tableColumns

end Model

/-- A rule with fields whose type is one of a model is read back from its row. -/
theorem Rule.rereads_of_type {rule : Rule} (some : rule.fields ≠ [])
    (kind : Model.Part.ofKey? rule.type.toList = Option.some .policy ∨
      Model.Part.ofKey? rule.type.toList = Option.some .role) : rule.Rereads := by
  obtain ⟨named, letters⟩ := Model.letters_of_type kind
  have solid : ∀ c ∈ rule.type.toList, Text.isSpace c = false := by
    intro c inside
    rcases letters c inside with rfl | rfl | digit
    · decide
    · decide
    · exact Text.isSpace_digit digit
  have other {c : Char} (noLetter : c ≠ 'p' ∧ c ≠ 'g' ∧ c.isDigit = false) : c ∉ rule.type.toList := by
    intro inside
    rcases letters c inside with same | same | digit
    · exact noLetter.1 same
    · exact noLetter.2.1 same
    · rw [noLetter.2.2] at digit
      cases digit
  refine ⟨some, ?_, other (by decide), other (by decide), ?_, ?_, ?_, ?_⟩
  · intro none
    exact named (String.toList_eq_nil_iff.2 none)
  · intro comment
    exact other (by decide) (List.mem_of_head? comment)
  · intro quote
    exact other (by decide) (List.mem_of_head? quote)
  · cases first : rule.type.toList.head? with
    | none => rfl
    | some c => exact solid c (List.mem_of_head? first)
  · cases last : rule.type.toList.getLast? with
    | none => rfl
    | some c => exact solid c (List.mem_of_getLast? last)

namespace State.Sound
variable {state : State} (sound : state.Sound)
include sound

/-- The rules of a table are as long as what is declared for its type. -/
theorem arity_cases {type : String} {table : RuleTable}
    (found : state.store.tables.find? type = some table) :
    (∃ shape, state.compiled.model.roles.find? type = some shape ∧ shape.arity = table.arity) ∨
      ∃ names, state.compiled.model.policies.find? type = some names ∧ names.length = table.arity := by
  have declared := sound.declared_of_find? found
  rw [Store.find?_ofModel] at declared
  rcases Option.or_eq_some_iff.1 declared with role | ⟨-, policy⟩
  · obtain ⟨shape, shaped, same⟩ := Option.map_eq_some_iff.1 role
    exact .inl ⟨shape, shaped, congrArg RuleTable.arity same⟩
  · obtain ⟨names, named, same⟩ := Option.map_eq_some_iff.1 policy
    exact .inr ⟨names, named, congrArg RuleTable.arity same⟩

theorem fields_ne_nil {type : String} {table : RuleTable}
    (found : state.store.tables.find? type = some table) {fields : List String}
    (valid : table.validate type fields = .ok ()) : fields ≠ [] := by
  have length := (RuleTable.validate_eq_ok.1 valid).1
  have some : 0 < table.arity := by
    rcases sound.arity_cases found with ⟨shape, -, arity⟩ | ⟨names, named, arity⟩
    · cases shape <;> simp [RoleShape.arity] at arity <;> omega
    · have some := List.length_pos_iff.2 (sound.keyed.fielded type names named)
      omega
  apply List.ne_nil_of_length_pos
  omega

/-- No rule is wider than a table if no policy definition is; the links of roles are narrow anyway. -/
theorem narrow (fits : state.compiled.model.FitsTable) :
    ∀ rule ∈ state.store.ruleSet.toList, rule.fields.length ≤ tableColumns := by
  intro rule stored
  obtain ⟨table, found, valid⟩ := sound.exists_table (Store.mem_ruleSet.1 stored)
  rw [(RuleTable.validate_eq_ok.1 valid).1]
  rcases sound.arity_cases found with ⟨shape, -, arity⟩ | ⟨names, named, arity⟩
  · rw [← arity]
    cases shape <;> decide
  · rw [← arity]
    exact fits rule.type names named

/-- Every storage holds the rules of a sound state, a table provided that they are not too wide. -/
theorem holds {storage : Storage} (narrow : ∀ path, storage = .database path →
      ∀ rule ∈ state.store.ruleSet.toList, rule.fields.length ≤ tableColumns) :
    storage.Holds state.store.ruleSet := by
  cases storage with
  | database path => exact narrow path rfl
  | text path =>
    intro rule stored
    obtain ⟨table, found, valid⟩ := sound.exists_table (Store.mem_ruleSet.1 stored)
    have known : rule.type ∈ state.store.types := (Catalogue.mem_names_iff _ _).2 ⟨table, found⟩
    refine ⟨?_, (RuleTable.validate_eq_ok.1 valid).2.1⟩
    apply Rule.rereads_of_type (sound.fields_ne_nil found valid)
    exact (sound.mem_types.1 known).imp (sound.keyed.policy _) (sound.keyed.role _)

end State.Sound

/-- The rule set of a store, from the rules of its tables. -/
theorem Store.ruleSet_eq (store : Store) :
    store.ruleSet = RuleSet.ofList ((store.tables.map fun _ table => table.rules).entries.flatMap
      fun (type, rules) => rules.map (Rule.mk type)) := by
  simp [ruleSet, Catalogue.map, List.flatMap_map]

namespace State.Matches
variable {one other : State} (sound : one.Sound) (sound' : other.Sound) (same : one.Matches other)
include sound sound' same

/-- The tables of matching states are the same but for their indexes. -/
theorem tables (type : String) :
    (one.store.tables.find? type = none ∧ other.store.tables.find? type = none) ∨
      ∃ table table', one.store.tables.find? type = some table ∧
        other.store.tables.find? type = some table' ∧ table.cleared = table'.cleared ∧
        table.rules = table'.rules := by
  have declared := sound.declared type
  rw [same.compiled, ← sound'.declared type] at declared
  cases found : one.store.tables.find? type with
  | none =>
    rw [found, Option.map_none, eq_comm, Option.map_eq_none_iff] at declared
    exact .inl ⟨rfl, declared⟩
  | some table =>
    rw [found, Option.map_some, eq_comm, Option.map_eq_some_iff] at declared
    obtain ⟨table', found', cleared⟩ := declared
    have rules := same.rules type
    rw [Store.rules_of_find? found, Store.rules_of_find? found'] at rules
    exact .inr ⟨table, table', rfl, found', cleared.symm, rules⟩

/-- Matching states have one rule set. -/
theorem ruleSet_eq : one.store.ruleSet = other.store.ruleSet := by
  rw [Store.ruleSet_eq, Store.ruleSet_eq]
  congr 3
  apply Catalogue.eq_of_find?
  intro type
  rw [Catalogue.find?_map, Catalogue.find?_map]
  rcases tables sound sound' same type with ⟨none, none'⟩ | ⟨table, table', found, found', -, rules⟩
  · rw [none, none']
  · rw [found, found']
    exact congrArg some rules

end State.Matches

namespace Enforcer
variable {enforcer : Enforcer}

section
variable [Regex.Engine]

/-- The rules of a state are accepted by every enforcer of the same model. -/
theorem Settled.exists_replaceRules (settled : enforcer.Settled) {state : State}
    (orderly : state.Orderly) (compiled : enforcer.state.compiled = state.compiled) :
    ∃ after, enforcer.replaceRules state.store.ruleSet = .ok after ∧ after.Settled ∧
      after.state.Matches state := by
  obtain ⟨rebuilt, built, sound, same⟩ := orderly.rebuilt
  rw [← compiled] at built
  exact ⟨{ enforcer with state := rebuilt }, Result.bind_eq_ok.2 ⟨rebuilt, built, rfl⟩,
    ⟨sound, settled.coherent⟩, same⟩

/-- What was saved of a state is loaded by every enforcer of the same model with that storage. -/
theorem Settled.exists_loadPolicy (settled : enforcer.Settled) {state : State}
    (orderly : state.Orderly) (compiled : enforcer.state.compiled = state.compiled) {storage : Storage}
    (kept : enforcer.storage? = some storage) {files : FileTree}
    (stored : storage.load files = .ok state.store.ruleSet) :
    ∃ after, enforcer.loadPolicy files = .ok after ∧ after.Settled ∧ after.state.Matches state := by
  obtain ⟨after, replaced, settledAfter, same⟩ := settled.exists_replaceRules orderly compiled
  exact ⟨after, loadPolicy_eq_ok.2 ⟨storage, _, kept, stored, replaced⟩, settledAfter, same⟩

/-- A new enforcer with a storage starts from the state without rules. -/
theorem Settled.exists_withStorage (settled : enforcer.Settled) {storage : Storage} {files : FileTree}
    (stored : storage.load files = .ok enforcer.rules) :
    ∃ fresh, withStorage enforcer.model storage files = .ok fresh ∧ fresh.Settled ∧
      fresh.state.Matches enforcer.state := by
  have compiles : CompiledModel.compile enforcer.model = .ok enforcer.state.compiled :=
    settled.orderly.compiles
  have start : Settled { state := .ofModel enforcer.state.compiled, storage? := some storage } :=
    ⟨settled.orderly.withoutRules, PatternCache.coherent_empty⟩
  obtain ⟨fresh, loaded, settledFresh, same⟩ :=
    start.exists_loadPolicy settled.orderly rfl rfl stored
  refine ⟨fresh, Result.bind_eq_ok.2 ⟨_, Result.map_eq_ok.2 ⟨_, compiles, rfl⟩, loaded⟩, settledFresh, same⟩

/-- A new enforcer has the stored rules, each added to the state without rules. -/
theorem withStorage_eq_ok {model : Model} {storage : Storage} {files : FileTree} :
    withStorage model storage files = .ok enforcer ↔ ∃ compiled rules state,
      CompiledModel.compile model = .ok compiled ∧ storage.load files = .ok rules ∧
        State.ofRules compiled rules = .ok state ∧ enforcer = { state, storage? := some storage } := by
  constructor
  · intro made
    obtain ⟨start, bare, loaded⟩ := Result.bind_eq_ok.1 made
    obtain ⟨compiled, compiles, rfl⟩ := Result.map_eq_ok.1 bare
    obtain ⟨_, rules, kept, stored, replaced⟩ := loadPolicy_eq_ok.1 loaded
    cases kept
    obtain ⟨state, built, same⟩ := Result.bind_eq_ok.1 replaced
    cases same
    exact ⟨compiled, rules, state, compiles, stored, built, rfl⟩
  · rintro ⟨compiled, rules, state, compiles, stored, built, rfl⟩
    refine Result.bind_eq_ok.2 ⟨_, Result.map_eq_ok.2 ⟨_, compiles, rfl⟩, ?_⟩
    exact loadPolicy_eq_ok.2 ⟨storage, rules, rfl, stored, Result.bind_eq_ok.2 ⟨state, built, rfl⟩⟩

/-- A new enforcer with stored rules is reached by loading them. -/
theorem reachable_of_withStorage {text : String} {model : Model} (read : Model.ofText text = .ok model)
    {storage : Storage} {files : FileTree} (made : withStorage model storage files = .ok enforcer) :
    enforcer.Reachable := by
  obtain ⟨start, bare, loaded⟩ := Result.bind_eq_ok.1 made
  have reached := Reachable.intro read bare (some storage) [.loadPolicy files]
  have same : run { start with storage? := some storage } [.loadPolicy files] = enforcer := by
    change orKeep _ (loadPolicy _ files) = enforcer
    rw [loaded]
    rfl
  exact same ▸ reached

theorem model_of_withStorage {model : Model} {storage : Storage} {files : FileTree}
    (made : withStorage model storage files = .ok enforcer) : enforcer.model = model := by
  obtain ⟨compiled, rules, state, compiles, -, built, rfl⟩ := withStorage_eq_ok.1 made
  have kept := (State.Leads.addAll .refl built).compiled_eq
  change state.compiled.model = model
  rw [kept]
  exact (CompiledModel.compile_eq_ok.1 compiles).1

theorem storage_of_withStorage {model : Model} {storage : Storage} {files : FileTree}
    (made : withStorage model storage files = .ok enforcer) : enforcer.storage? = some storage := by
  obtain ⟨_, _, _, -, -, -, rfl⟩ := withStorage_eq_ok.1 made
  rfl

theorem Settled.exists_savePolicy (settled : enforcer.Settled) {storage : Storage}
    (kept : enforcer.storage? = some storage) {files : FileTree} (available : storage.Available files)
    (narrow : ∀ path, storage = .database path →
      ∀ rule ∈ enforcer.rules.toList, rule.fields.length ≤ tableColumns) :
    ∃ saved, enforcer.savePolicy files = .ok saved ∧ storage.load saved = .ok enforcer.rules := by
  have sorted : RuleSet.ofList enforcer.rules.toList = enforcer.rules := RuleSet.ofList_toList_ofList _
  obtain ⟨saved, done, loaded⟩ :=
    Storage.exists_save available (settled.orderly.sound.holds narrow) sorted
  exact ⟨saved, (savePolicy_eq kept files).trans done, loaded⟩

/-- The policy of the enforcer can be saved, and what is saved stands for the enforcer: any enforcer with
the same model and storage that loads it, and a new one that is made with it, has the same rules in the
same order and answers alike. -/
def Persists (enforcer : Enforcer) (storage : Storage) (files : FileTree) : Prop :=
  ∃ saved, enforcer.savePolicy files = .ok saved ∧
    (∀ later : Enforcer, later.Reachable → later.model = enforcer.model →
      later.storage? = some storage →
      ∃ loaded, later.loadPolicy saved = .ok loaded ∧ loaded.rules = enforcer.rules ∧
        loaded.Alike enforcer) ∧
    ∃ fresh, withStorage enforcer.model storage saved = .ok fresh ∧ fresh.rules = enforcer.rules ∧
      fresh.Alike enforcer

/-- Whatever operations have led to an enforcer, its policy is saved in its storage and loaded again
without any change, in a table provided that no rule is wider than the table. -/
theorem persists_of_reachable (reachable : enforcer.Reachable) {storage : Storage}
    (kept : enforcer.storage? = some storage) {files : FileTree} (available : storage.Available files)
    (narrow : ∀ path, storage = .database path →
      ∀ rule ∈ enforcer.rules.toList, rule.fields.length ≤ tableColumns) :
    enforcer.Persists storage files := by
  have settled := settled_of_reachable reachable
  obtain ⟨saved, done, stored⟩ := settled.exists_savePolicy kept available narrow
  have restored {after : Enforcer} (settledAfter : after.Settled)
      (same : after.state.Matches enforcer.state) : after.rules = enforcer.rules ∧ after.Alike enforcer :=
    ⟨State.Matches.ruleSet_eq settledAfter.orderly.sound settled.orderly.sound same,
      alike_of_matches settledAfter settled same⟩
  refine ⟨saved, done, ?_, ?_⟩
  · intro later reachableLater model keptLater
    have settledLater := settled_of_reachable reachableLater
    obtain ⟨loaded, load, settledAfter, same⟩ := settledLater.exists_loadPolicy settled.orderly
      (settledLater.compiled_eq settled model) keptLater stored
    exact ⟨loaded, load, restored settledAfter same⟩
  · obtain ⟨fresh, made, settledFresh, same⟩ := settled.exists_withStorage stored
    exact ⟨fresh, made, restored settledFresh same⟩

end

/-- Rules with commas and outer blanks, kept in a text that is not there yet and in an empty table. -/
theorem persists_of_tenants :
    (run { Tenants.enforcer with storage? := some (.text "rules") }
      [.add "p" ["a, b", " one", "allow"], .addRole "alice" "a, b" (some " one")]).Persists
        (.text "rules") {} ∧
    (run { Tenants.enforcer with storage? := some (.database "rules") }
      [.add "p" ["a, b", " one", "allow"], .addRole "alice" "a, b" (some " one")]).Persists
        (.database "rules") { entries := [(["rules"], .file (.database {}))] } := by
  constructor
  · apply persists_of_reachable
    · exact .intro Tenants.ofText_text Tenants.ofModel_model (some (.text "rules")) _
    · rfl
    · exact ⟨["rules"], by decide +kernel, by decide +kernel⟩
    · intro path same
      cases same
  · apply persists_of_reachable
    · exact .intro Tenants.ofText_text Tenants.ofModel_model (some (.database "rules")) _
    · rfl
    · exact ⟨{}, by decide +kernel, rfl⟩
    · intro path _
      decide +kernel

end Enforcer
end AccessControl
