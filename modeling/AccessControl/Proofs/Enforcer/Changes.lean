import AccessControl.Enforcer
import AccessControl.Proofs.Store.Tables
/-!
The changes of a state by their cases. Whether a rule is added or removed or many are removed at once,
the state either stays as it was or one table and the role relation of its type change together, and
all that can be told about the change from outside is said here.
-/
namespace AccessControl.State

/-- The state with another table for a type, and another relation if it is a grouping type. -/
def withChanged (state : State) (type : String) (change : RuleTable → RuleTable)
    (relink : RoleRelation → RoleRelation) : State :=
  { state with
    store := state.store.withTable type change
    roles := if isGroupingType type then state.roles.modify type relink else state.roles }

variable {state after : State} {type : String}

theorem withRelation_eq_ok {relink : RoleRelation → RoleRelation} :
    state.withRelation type relink = .ok after ↔
      state.roles.has type = true ∧ after = { state with roles := state.roles.modify type relink } := by
  unfold withRelation
  by_cases known : state.roles.has type = true
  · simp [known, eq_comm]
  · simp [known]

/-- Once the table of a type has changed, the relation of a grouping type is to follow; for any other
type there is nothing left to do. -/
theorem relinked_eq_ok {α : Type} {answer result : α} {change : RuleTable → RuleTable}
    {relink : RoleRelation → RoleRelation} :
    (if isGroupingType type = true then do
        let linked ← withRelation { state with store := state.store.withTable type change } type relink
        return (answer, linked)
      else return (answer, { state with store := state.store.withTable type change })) =
        Except.ok (ε := Error) (result, after) →
      result = answer ∧ after = state.withChanged type change relink := by
  cases grouping : isGroupingType type with
  | false =>
    intro done
    cases done
    exact ⟨rfl, by simp [withChanged, grouping]⟩
  | true =>
    intro done
    obtain ⟨linked, relinked, same⟩ := Result.bind_eq_ok.1 done
    obtain ⟨-, rfl⟩ := withRelation_eq_ok.1 relinked
    cases same
    exact ⟨rfl, by simp [withChanged, grouping]⟩

/-- A rule that is added passed the check of its type; if it is new, its table and its relation have
it from then on. -/
theorem addRule_cases {fields : List String} {added : Bool}
    (done : state.addRule type fields = .ok (added, after)) :
    ∃ table, state.store.tables.find? type = some table ∧ table.validate type fields = .ok () ∧
      ((added = false ∧ table.index.has fields = true ∧ after = state) ∨
        (added = true ∧ table.index.has fields = false ∧
          after = state.withChanged type (·.insert fields) (addLink fields))) := by
  unfold addRule at done
  obtain ⟨⟨isNew, store⟩, stored, rest⟩ := Result.bind_eq_ok.1 done
  obtain ⟨table, found, valid, outcome⟩ := Store.add_cases stored
  refine ⟨table, found, valid, ?_⟩
  rcases outcome with ⟨rfl, present, rfl⟩ | ⟨rfl, absent, rfl⟩
  · cases rest
    exact .inl ⟨rfl, present, rfl⟩
  · simp only [Bool.true_and] at rest
    obtain ⟨isAdded, changed⟩ := relinked_eq_ok rest
    exact .inr ⟨isAdded, absent, changed⟩

/-- A rule that was there is gone from its table and its relation after its removal. -/
theorem removeRule_cases {fields : List String} {removed : Bool}
    (done : state.removeRule type fields = .ok (removed, after)) :
    ∃ table, state.store.tables.find? type = some table ∧
      ((removed = false ∧ table.index.has fields = false ∧ after = state) ∨
        (removed = true ∧ table.index.has fields = true ∧
          after = state.withChanged type (·.erase fields) (removeLink fields))) := by
  unfold removeRule at done
  obtain ⟨⟨wasThere, store⟩, stored, rest⟩ := Result.bind_eq_ok.1 done
  obtain ⟨table, found, outcome⟩ := Store.remove_cases stored
  refine ⟨table, found, ?_⟩
  rcases outcome with ⟨rfl, absent, rfl⟩ | ⟨rfl, present, rfl⟩
  · cases rest
    exact .inl ⟨rfl, absent, rfl⟩
  · simp only [Bool.true_and] at rest
    obtain ⟨isRemoved, changed⟩ := relinked_eq_ok rest
    exact .inr ⟨isRemoved, present, changed⟩

/-- The rules that a filter selects are gone from their table and their relation after the removal. -/
theorem removeFiltered_cases {index : Word} {values : List String} {removed : List (List String)}
    (done : state.removeFiltered type index values = .ok (removed, after)) :
    ∃ table, state.store.tables.find? type = some table ∧
      removed = table.rules.filter (fieldsMatch · index values) ∧
      ((removed = [] ∧ after = state) ∨
        (removed ≠ [] ∧ after = state.withChanged type (·.eraseMatching index values)
          fun relation => removed.foldl (fun relation fields => removeLink fields relation) relation)) := by
  unfold removeFiltered at done
  obtain ⟨⟨gone, store⟩, stored, rest⟩ := Result.bind_eq_ok.1 done
  obtain ⟨table, found, selected, outcome⟩ := Store.removeFiltered_cases stored
  refine ⟨table, found, ?_⟩
  rcases outcome with ⟨rfl, rfl⟩ | ⟨some, rfl⟩
  · simp only [List.isEmpty_nil, Bool.not_true, Bool.and_false, Bool.false_eq_true, if_false] at rest
    cases rest
    exact ⟨selected, .inl ⟨rfl, rfl⟩⟩
  · have notEmpty : gone.isEmpty = false := by simpa using some
    simp only [notEmpty, Bool.not_false, Bool.and_true] at rest
    obtain ⟨rfl, changed⟩ := relinked_eq_ok rest
    exact ⟨selected, .inr ⟨some, changed⟩⟩

/-- A state leads to those that come of it when rules are added and removed, as often as one likes. -/
inductive Leads (state : State) : State → Prop
  | refl : Leads state state
  | addRule {middle after : State} {type : String} {fields : List String} {added : Bool}
      (leads : Leads state middle) (done : middle.addRule type fields = .ok (added, after)) :
      Leads state after
  | removeRule {middle after : State} {type : String} {fields : List String} {removed : Bool}
      (leads : Leads state middle) (done : middle.removeRule type fields = .ok (removed, after)) :
      Leads state after
  | removeFiltered {middle after : State} {type : String} {index : Word} {values : List String}
      {removed : List (List String)} (leads : Leads state middle)
      (done : middle.removeFiltered type index values = .ok (removed, after)) : Leads state after

namespace Leads
variable {middle : State} (leads : state.Leads middle)
include leads

theorem addRules {rules : List (List String)} {added : Bool}
    (done : middle.addRules type rules = .ok (added, after)) : state.Leads after := by
  induction rules generalizing middle added with
  | nil =>
    cases done
    exact leads
  | cons fields rest ih =>
    unfold State.addRules at done
    obtain ⟨⟨first, next⟩, one, later⟩ := Result.bind_eq_ok.1 done
    obtain ⟨⟨others, last⟩, many, same⟩ := Result.bind_eq_ok.1 later
    cases same
    exact ih (leads.addRule one) many

theorem addAll {rules : List Rule} (done : middle.addAll rules = .ok after) : state.Leads after := by
  induction rules generalizing middle with
  | nil =>
    cases done
    exact leads
  | cons rule rest ih =>
    unfold State.addAll at done
    obtain ⟨⟨first, next⟩, one, later⟩ := Result.bind_eq_ok.1 done
    exact ih (leads.addRule one) later

/-- The compiled model is not touched. -/
theorem compiled_eq : middle.compiled = state.compiled := by
  induction leads with
  | refl => rfl
  | addRule _ done ih =>
    obtain ⟨_, _, _, ⟨-, -, rfl⟩ | ⟨-, -, rfl⟩⟩ := addRule_cases done
    · exact ih
    · exact ih
  | removeRule _ done ih =>
    obtain ⟨_, _, ⟨-, -, rfl⟩ | ⟨-, -, rfl⟩⟩ := removeRule_cases done
    · exact ih
    · exact ih
  | removeFiltered _ done ih =>
    obtain ⟨_, _, -, ⟨-, rfl⟩ | ⟨-, rfl⟩⟩ := removeFiltered_cases done
    · exact ih
    · exact ih

/-- What the model compiles to goes on being what the state keeps of it. -/
theorem compiles [Regex.Engine] (compiled : CompiledModel.compile state.compiled.model = .ok state.compiled) :
    CompiledModel.compile middle.compiled.model = .ok middle.compiled := by
  rw [leads.compiled_eq]
  exact compiled

end Leads
end AccessControl.State
