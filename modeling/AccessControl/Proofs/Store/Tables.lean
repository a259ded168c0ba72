import AccessControl.Proofs.Result
import AccessControl.Store
/-!
Tables of rules and their changes. A table is sound when no rule stands in it twice, its index knows
just the rules that stand in it, and each of them passes the table's own check. Adding a rule that
passes and is not there, removing one, and removing those that a filter selects keep a table sound.
The changes of a store are told by their cases, each with what the change found and what it left.
-/
namespace AccessControl

namespace RuleIndex

theorem has_foldl_erase (removed : List (List String)) (index : RuleIndex) (other : List String) :
    (removed.foldl erase index).has other = (!removed.contains other && index.has other) := by
  induction removed generalizing index with
  | nil => simp
  | cons first rest ih =>
    rw [List.foldl_cons, ih, has_erase, List.contains_cons, Bool.not_or, Bool.and_assoc]
    cases rest.contains other <;> simp [bne]

end RuleIndex

namespace RuleTable

/-- What the rules of a table and its index owe to each other and to the declaration of the type. -/
structure Sound (table : RuleTable) (type : String) : Prop where
  distinct : table.rules.Nodup
  indexed : ∀ fields, table.index.has fields = true ↔ fields ∈ table.rules
  valid : ∀ fields ∈ table.rules, table.validate type fields = .ok ()

/-- The table without its rules. -/
def cleared (table : RuleTable) : RuleTable :=
  { arity := table.arity, effectIndex? := table.effectIndex? }

@[simp] theorem cleared_insert (table : RuleTable) (fields : List String) :
    (table.insert fields).cleared = table.cleared := rfl

@[simp] theorem cleared_erase (table : RuleTable) (fields : List String) :
    (table.erase fields).cleared = table.cleared := rfl

@[simp] theorem cleared_eraseMatching (table : RuleTable) (index : Word) (values : List String) :
    (table.eraseMatching index values).cleared = table.cleared := rfl

theorem sound_of_cleared {table : RuleTable} (same : table.cleared = table) (type : String) :
    table.Sound type := by
  rw [← same]
  exact ⟨List.nodup_nil, fun fields => by simp [cleared], fun fields found => by simp [cleared] at found⟩

variable {table : RuleTable} {type : String}

theorem Sound.insert (sound : table.Sound type) {fields : List String}
    (accepted : table.validate type fields = .ok ()) (absent : table.index.has fields = false) :
    (table.insert fields).Sound type := by
  have fresh : fields ∉ table.rules := by
    intro found
    rw [← sound.indexed, absent] at found
    exact Bool.noConfusion found
  refine ⟨?_, ?_, ?_⟩
  · change (table.rules ++ [fields]).Nodup
    rw [List.nodup_append]
    refine ⟨sound.distinct, by simp, ?_⟩
    intro earlier found last here same
    rw [List.mem_singleton.1 here] at same
    exact fresh (same ▸ found)
  · intro other
    simp [RuleTable.insert, sound.indexed, or_comm]
  · intro other found
    rcases List.mem_append.1 found with old | new
    · exact sound.valid other old
    · rw [List.mem_singleton.1 new]
      exact accepted

theorem Sound.erase (sound : table.Sound type) (fields : List String) :
    (table.erase fields).Sound type := by
  refine ⟨sound.distinct.filter _, ?_, ?_⟩
  · intro other
    simp [RuleTable.erase, sound.indexed, and_comm]
  · intro other found
    exact sound.valid other (List.mem_filter.1 found).1

theorem Sound.eraseMatching (sound : table.Sound type) (index : Word) (values : List String) :
    (table.eraseMatching index values).Sound type := by
  refine ⟨sound.distinct.filter _, ?_, ?_⟩
  · intro other
    by_cases selected : fieldsMatch other index values = true
    · simp [RuleTable.eraseMatching, RuleIndex.has_foldl_erase, sound.indexed, selected]
    · simp [RuleTable.eraseMatching, RuleIndex.has_foldl_erase, sound.indexed, selected]
  · intro other found
    exact sound.valid other (List.mem_filter.1 found).1

end RuleTable

namespace Store
variable {store after : Store} {type : String}

theorem find?_withTable (store : Store) (type other : String) (change : RuleTable → RuleTable) :
    (store.withTable type change).tables.find? other =
      if other = type then (store.tables.find? other).map change else store.tables.find? other :=
  Catalogue.find?_modify store.tables type other change

theorem rules_of_find? {table : RuleTable} (found : store.tables.find? type = some table) :
    store.rules type = table.rules := by
  rw [rules, found]
  rfl

theorem rules_of_absent (absent : store.tables.find? type = none) : store.rules type = [] := by
  rw [rules, absent]
  rfl

theorem rules_withTable_other {other : String} (change : RuleTable → RuleTable)
    (distinct : other ≠ type) : (store.withTable type change).rules other = store.rules other := by
  rw [rules, find?_withTable, if_neg distinct, rules]

theorem rules_withTable_self {table : RuleTable} (change : RuleTable → RuleTable)
    (found : store.tables.find? type = some table) :
    (store.withTable type change).rules type = (change table).rules := by
  rw [rules, find?_withTable, if_pos rfl, found]
  rfl

theorem has_of_find? {table : RuleTable} (found : store.tables.find? type = some table)
    (fields : List String) : store.has type fields = table.index.has fields := by
  rw [has, found]
  rfl

theorem table_eq_ok {table : RuleTable} :
    store.table type = .ok table ↔ store.tables.find? type = some table := by
  unfold Store.table
  cases store.tables.find? type <;> simp

theorem validate_eq_ok {fields : List String} :
    store.validate type fields = .ok () ↔
      ∃ table, store.tables.find? type = some table ∧ table.validate type fields = .ok () := by
  unfold Store.validate
  simp only [Result.bind_eq_ok, table_eq_ok]

/-- An added rule passed the check of its type; it is new unless the index knows it. -/
theorem add_cases {fields : List String} {added : Bool}
    (done : store.add type fields = .ok (added, after)) :
    ∃ table, store.tables.find? type = some table ∧ table.validate type fields = .ok () ∧
      ((added = false ∧ table.index.has fields = true ∧ after = store) ∨
        (added = true ∧ table.index.has fields = false ∧
          after = store.withTable type (·.insert fields))) := by
  unfold add at done
  obtain ⟨⟨⟩, accepted, rest⟩ := Result.bind_eq_ok.1 done
  obtain ⟨table, found, valid⟩ := validate_eq_ok.1 accepted
  refine ⟨table, found, valid, ?_⟩
  rw [has_of_find? found] at rest
  by_cases present : table.index.has fields = true
  · rw [if_pos present] at rest
    cases rest
    exact .inl ⟨rfl, present, rfl⟩
  · rw [if_neg present] at rest
    cases rest
    exact .inr ⟨rfl, by simpa using present, rfl⟩

/-- A removed rule is one that the index knew. -/
theorem remove_cases {fields : List String} {removed : Bool}
    (done : store.remove type fields = .ok (removed, after)) :
    ∃ table, store.tables.find? type = some table ∧
      ((removed = false ∧ table.index.has fields = false ∧ after = store) ∨
        (removed = true ∧ table.index.has fields = true ∧
          after = store.withTable type (·.erase fields))) := by
  unfold remove at done
  obtain ⟨table, known, rest⟩ := Result.bind_eq_ok.1 done
  have found := table_eq_ok.1 known
  refine ⟨table, found, ?_⟩
  rw [has_of_find? found] at rest
  by_cases present : table.index.has fields = true
  · rw [if_pos present] at rest
    cases rest
    exact .inr ⟨rfl, present, rfl⟩
  · rw [if_neg present] at rest
    cases rest
    exact .inl ⟨rfl, by simpa using present, rfl⟩

/-- A filtered removal answers with the rules that the filter selects, and removes those. -/
theorem removeFiltered_cases {index : Word} {values : List String} {removed : List (List String)}
    (done : store.removeFiltered type index values = .ok (removed, after)) :
    ∃ table, store.tables.find? type = some table ∧
      removed = table.rules.filter (fieldsMatch · index values) ∧
      ((removed = [] ∧ after = store) ∨
        (removed ≠ [] ∧ after = store.withTable type (·.eraseMatching index values))) := by
  unfold removeFiltered at done
  obtain ⟨table, known, rest⟩ := Result.bind_eq_ok.1 done
  have found := table_eq_ok.1 known
  refine ⟨table, found, ?_⟩
  rw [filtered, rules_of_find? found] at rest
  by_cases none : table.rules.filter (fieldsMatch · index values) = []
  · simp only [none, List.isEmpty_nil, if_true] at rest
    cases rest
    exact ⟨none.symm, .inl ⟨rfl, rfl⟩⟩
  · simp only [List.isEmpty_iff, none, if_false] at rest
    cases rest
    exact ⟨rfl, .inr ⟨none, rfl⟩⟩

end Store
end AccessControl
