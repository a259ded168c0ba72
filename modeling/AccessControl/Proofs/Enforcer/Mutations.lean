import AccessControl.Enforcer.Mutation
import AccessControl.Proofs.Action
import AccessControl.Proofs.Enforcer.Commands
/-!
Calls that add and remove rules take effect as a whole or not at all, and tell the truth about it. Each
call comes to what is worked out for it on values, so that a failure in the midst of its steps is not
seen from outside. The answer of a call that succeeds is whether the rules are others afterwards: whether
a rule was new, or how many were removed, shows in the number of rules of some type.
-/
namespace AccessControl

namespace State
variable {state after : State} {type : String}

theorem outcome_editStore {α : Type} (change : Store → Except Error (α × Store)) (state : State) :
    (editStore change).outcome state =
      (change state.store).map fun result => (result.1, { state with store := result.2 }) := by
  unfold editStore
  rw [Action.outcome_get_bind, Action.outcome_bind, Action.outcome_lift]
  cases change state.store <;> rfl

theorem outcome_editRelation (type : String) (change : RoleRelation → RoleRelation) (state : State) :
    (editRelation type change).outcome state =
      (state.withRelation type change).map fun linked => (PUnit.unit, linked) := by
  unfold editRelation
  rw [Action.outcome_get_bind, Action.outcome_bind, Action.outcome_lift]
  cases state.withRelation type change <;> rfl

/-- A relation that is changed in a second step, or not at all. -/
theorem outcome_relinked {α : Type} (grouping : Bool) (answer : α)
    (change : RoleRelation → RoleRelation) (state : State) :
    Action.outcome (do
      if grouping then editRelation type change
      return answer) state =
    if grouping then (state.withRelation type change).map fun linked => (answer, linked)
      else .ok (answer, state) := by
  cases grouping with
  | false => rfl
  | true =>
    simp only [if_true]
    rw [Action.outcome_bind, outcome_editRelation]
    cases state.withRelation type change <;> rfl

theorem outcome_insertRule (type : String) (fields : List String) (state : State) :
    (insertRule type fields).outcome state = state.addRule type fields := by
  unfold insertRule addRule
  rw [Action.outcome_bind, outcome_editStore]
  cases state.store.add type fields with
  | error error => rfl
  | ok result =>
    obtain ⟨added, store⟩ := result
    change Action.outcome (do
      if added && isGroupingType type then editRelation type (addLink fields)
      return added) { state with store } = _
    rw [outcome_relinked]
    cases added with
    | false => rfl
    | true => rfl

/-- Rules that are added one after another are those that are added at once, whatever has been added
before. -/
theorem outcome_insertRules (type : String) (added : Bool) (rules : List (List String)) (state : State) :
    (insertRules type added rules).outcome state =
      (state.addRules type rules).map fun result => (added || result.1, result.2) := by
  induction rules generalizing added state with
  | nil => exact congrArg (fun any => Except.ok (any, state)) (Bool.or_false added).symm
  | cons fields rest ih =>
    unfold insertRules addRules
    rw [Action.outcome_bind, outcome_insertRule, Result.map_bind]
    cases state.addRule type fields with
    | error error => rfl
    | ok first =>
      change (insertRules type (added || first.1) rest).outcome first.2 = _
      rw [ih]
      change _ = Except.map _ (first.2.addRules type rest >>= fun later => _)
      cases first.2.addRules type rest with
      | error error => rfl
      | ok later => exact congrArg (fun any => Except.ok (any, later.2)) (Bool.or_assoc ..)

theorem outcome_eraseRule (type : String) (fields : List String) (state : State) :
    (eraseRule type fields).outcome state = state.removeRule type fields := by
  unfold eraseRule removeRule
  rw [Action.outcome_bind, outcome_editStore]
  cases state.store.remove type fields with
  | error error => rfl
  | ok result =>
    obtain ⟨removed, store⟩ := result
    change Action.outcome (do
      if removed && isGroupingType type then editRelation type (removeLink fields)
      return removed) { state with store } = _
    rw [outcome_relinked]
    cases removed with
    | false => rfl
    | true => rfl

theorem outcome_eraseMatching (type : String) (index : Word) (values : List String) (state : State) :
    (eraseMatching type index values).outcome state = state.removeFiltered type index values := by
  unfold eraseMatching removeFiltered
  rw [Action.outcome_bind, outcome_editStore]
  cases state.store.removeFiltered type index values with
  | error error => rfl
  | ok result =>
    obtain ⟨removed, store⟩ := result
    change Action.outcome (do
      if isGroupingType type && !removed.isEmpty then
        editRelation type fun relation =>
          removed.foldl (fun relation fields => removeLink fields relation) relation
      return removed) { state with store } = _
    rw [outcome_relinked]
    rfl

theorem outcome_eraseLinksOf (name : String) (index : Word) (state : State) :
    (eraseLinksOf name index).outcome state =
      (state.removeLinksOf name index).map fun result => (result.1.length, result.2) := by
  unfold eraseLinksOf removeLinksOf
  rw [Action.outcome_get_bind]
  split
  · rw [Action.outcome_bind, outcome_eraseMatching]
    cases state.removeFiltered roleType index [name] <;> rfl
  · rfl

/-- The two removals that make up the deletion of a subject. -/
theorem outcome_eraseSubject (name : String) (index : Word) (state : State) :
    (eraseSubject name index).outcome state = (do
      let (links, state) ← state.removeLinksOf name index
      let (permissions, state) ← state.removeFiltered permissionType 0 [name]
      return ((links.length, permissions.length), state)) := by
  unfold eraseSubject
  rw [Action.outcome_bind, outcome_eraseLinksOf]
  cases state.removeLinksOf name index with
  | error error => rfl
  | ok first =>
    change Action.outcome (eraseMatching permissionType 0 [name] >>= fun permissions =>
      pure (first.1.length, permissions.length)) first.2 = _
    rw [Action.outcome_bind, outcome_eraseMatching]
    rfl

/-- Adding rules either changes nothing, or gives their type more rules. -/
theorem addRules_cases {rules : List (List String)} {added : Bool}
    (done : state.addRules type rules = .ok (added, after)) :
    (added = false ∧ after = state) ∨
      (added = true ∧ (state.store.rules type).length < (after.store.rules type).length) := by
  induction rules generalizing state added with
  | nil =>
    cases done
    exact .inl ⟨rfl, rfl⟩
  | cons fields rest ih =>
    unfold addRules at done
    obtain ⟨⟨isNew, middle⟩, first, later⟩ := Result.bind_eq_ok.1 done
    obtain ⟨⟨anyLater, last⟩, others, same⟩ := Result.bind_eq_ok.1 later
    cases same
    have grown : (middle.store.rules type).length ≤ (after.store.rules type).length := by
      rcases ih others with ⟨-, rfl⟩ | ⟨-, more⟩
      · exact le_rfl
      · exact more.le
    obtain ⟨table, found, -, ⟨rfl, -, rfl⟩ | ⟨rfl, -, rfl⟩⟩ := addRule_cases first
    · exact ih others
    · rw [rules_withChanged found, if_pos rfl] at grown
      rw [Store.rules_of_find? found]
      simp only [RuleTable.insert, List.length_append, List.length_singleton] at grown
      exact .inr ⟨rfl, by omega⟩

/-- The rules that a filtered removal answers with are those that its type has lost. -/
theorem length_removeFiltered {index : Word} {values : List String} {removed : List (List String)}
    (done : state.removeFiltered type index values = .ok (removed, after)) (other : String) :
    (after.store.rules other).length + (if other = type then removed.length else 0) =
      (state.store.rules other).length := by
  obtain ⟨table, found, rfl, ⟨none, rfl⟩ | ⟨-, rfl⟩⟩ := removeFiltered_cases done
  · simp [none]
  · rw [rules_withChanged found]
    split
    next same =>
      subst same
      rw [Store.rules_of_find? found]
      have parted := List.length_eq_length_filter_add (l := table.rules) (fieldsMatch · index values)
      simp only [RuleTable.eraseMatching]
      omega
    next => rfl

theorem rules_of_ruleSet {one other : Store} (same : one.ruleSet = other.ruleSet) (type : String) :
    one.rules type = other.rules type := by
  rw [Store.rules_eq, same, ← Store.rules_eq]

/-- A filtered removal answers with some rules just when the rules are others afterwards. -/
theorem cleared_iff {index : Word} {values : List String} {removed : List (List String)}
    (done : state.removeFiltered type index values = .ok (removed, after)) :
    removed ≠ [] ↔ after.store.ruleSet ≠ state.store.ruleSet := by
  have lost := length_removeFiltered done type
  obtain ⟨-, -, -, ⟨rfl, rfl⟩ | ⟨some, -⟩⟩ := removeFiltered_cases done
  · exact iff_of_false (absurd rfl) (absurd rfl)
  · refine iff_of_true some fun same => some (List.eq_nil_of_length_eq_zero ?_)
    rw [if_pos rfl, rules_of_ruleSet same] at lost
    omega

/-- There may be no links to remove, with or without a role relation. -/
theorem removeLinksOf_cases {name : String} {index : Word} {links : List (List String)}
    (done : state.removeLinksOf name index = .ok (links, after)) :
    (links = [] ∧ after = state) ∨
      (links ≠ [] ∧ state.removeFiltered roleType index [name] = .ok (links, after)) := by
  unfold removeLinksOf at done
  split at done
  · obtain ⟨-, -, -, ⟨rfl, same⟩ | ⟨some, -⟩⟩ := removeFiltered_cases done
    · exact .inl ⟨rfl, same⟩
    · exact .inr ⟨some, done⟩
  · cases done
    exact .inl ⟨rfl, rfl⟩

end State

namespace Enforcer
variable {enforcer : Enforcer}

/-- What is seen of a change from outside: its answer or its error, and the enforcer after it. -/
def answered {α : Type} (enforcer : Enforcer) (changed : Except Error (α × Enforcer)) :
    Except Error α × Enforcer :=
  (changed.map (·.1), enforcer.after changed)

/-- The change that an operation works out, if it is one of those that add or remove rules. -/
def changed? (enforcer : Enforcer) : Operation → Option (Except Error (Bool × Enforcer))
  | .add type fields => some (enforcer.add type fields)
  | .addMany type rules => some (enforcer.addMany type rules)
  | .remove type fields => some (enforcer.remove type fields)
  | .removeFiltered type index values => some (enforcer.removeFiltered type index values)
  | .addRole user role domain? => some (enforcer.addRole user role domain?)
  | .deleteRoleForUser user role domain? => some (enforcer.deleteRoleForUser user role domain?)
  | .deleteRoles user domain? => some (enforcer.deleteRoles user domain?)
  | .addPermission user permission => some (enforcer.addPermission user permission)
  | .deletePermission user permission => some (enforcer.deletePermission user permission)
  | .deleteUser user => some (enforcer.deleteUser user)
  | .deleteRole role => some (enforcer.deleteRole role)
  | .loadModel _ | .loadPolicy _ | .replaceRules _ | .clear | .decide _ => none

/-- Whether a change that succeeds answers if it has changed the rules. -/
def TellsTruth (enforcer : Enforcer) (changed : Except Error (Bool × Enforcer)) : Prop :=
  ∀ answer after, changed = .ok (answer, after) → (answer = true ↔ after.rules ≠ enforcer.rules)

theorem tellsTruth_add (sound : enforcer.state.Sound) (type : String) (fields : List String) :
    enforcer.TellsTruth (enforcer.add type fields) := by
  intro answer after done
  obtain ⟨state, added, rfl⟩ := exists_of_update done
  exact sound.added_iff added

theorem tellsTruth_addMany (enforcer : Enforcer) (type : String) (rules : List (List String)) :
    enforcer.TellsTruth (enforcer.addMany type rules) := by
  intro answer after done
  obtain ⟨state, added, rfl⟩ := exists_of_update done
  rcases State.addRules_cases added with ⟨rfl, rfl⟩ | ⟨rfl, more⟩
  · exact iff_of_false Bool.false_ne_true fun other => other rfl
  · refine iff_of_true rfl fun same => more.ne ?_
    exact congrArg List.length (State.rules_of_ruleSet same type).symm

theorem tellsTruth_remove (sound : enforcer.state.Sound) (type : String) (fields : List String) :
    enforcer.TellsTruth (enforcer.remove type fields) := by
  intro answer after done
  obtain ⟨state, removed, rfl⟩ := exists_of_update done
  exact sound.removed_iff removed

theorem tellsTruth_removeFiltered (enforcer : Enforcer) (type : String) (index : Word)
    (values : List String) : enforcer.TellsTruth (enforcer.removeFiltered type index values) := by
  intro answer after done
  obtain ⟨⟨removed, last⟩, updated, same⟩ := Result.bind_eq_ok.1 done
  cases same
  obtain ⟨state, filtered, rfl⟩ := exists_of_update updated
  rw [Bool.not_eq_true', List.isEmpty_eq_false_iff]
  exact State.cleared_iff filtered

/-- Links and permissions are rules of different types, so that neither removal makes up for the
other. -/
theorem tellsTruth_deleteSubject (enforcer : Enforcer) (name : String) (index : Word) :
    enforcer.TellsTruth (enforcer.deleteSubject name index) := by
  intro answer after done
  obtain ⟨state, changed, rfl⟩ := exists_of_update done
  obtain ⟨⟨links, middle⟩, unlinked, rest⟩ := Result.bind_eq_ok.1 changed
  obtain ⟨⟨permissions, last⟩, removed, same⟩ := Result.bind_eq_ok.1 rest
  cases same
  rcases State.removeLinksOf_cases unlinked with ⟨rfl, rfl⟩ | ⟨some, filtered⟩
  · rw [List.isEmpty_nil, Bool.true_and, Bool.not_eq_true', List.isEmpty_eq_false_iff]
    exact State.cleared_iff removed
  · refine iff_of_true (by simp [some]) fun same => some (List.eq_nil_of_length_eq_zero ?_)
    have gone := State.length_removeFiltered filtered roleType
    have kept := State.length_removeFiltered removed roleType
    rw [if_pos rfl] at gone
    rw [if_neg (by decide), State.rules_of_ruleSet same] at kept
    omega

theorem update_eq {α : Type} (enforcer : Enforcer) (change : State → Except Error (α × State)) :
    enforcer.update change =
      (change enforcer.state).map fun result => (result.1, { enforcer with state := result.2 }) := by
  unfold update
  cases change enforcer.state <;> rfl

/-- A change that succeeds is seen by its answer and by the state that it leads to. -/
theorem answered_of_ok {α : Type} {change : State → Except Error (α × State)} {answer : α} {state : State}
    (done : change enforcer.state = .ok (answer, state)) :
    enforcer.answered (enforcer.update change) = (.ok answer, { enforcer with state }) := by
  rw [update_eq, done]
  rfl

/-- A change that fails is seen by its error alone. -/
theorem answered_of_error {α : Type} {change : State → Except Error (α × State)} {error : Error}
    (failed : change enforcer.state = .error error) :
    enforcer.answered (enforcer.update change) = (.error error, enforcer) := by
  rw [update_eq, failed]
  rfl

/-- A change on a copy is seen as what it comes to on values. -/
theorem run_onCopy {α : Type} (change : Editing α) (enforcer : Enforcer) :
    change.onCopy.run enforcer = enforcer.answered (enforcer.update change.outcome) := by
  rw [update_eq]
  unfold Editing.onCopy Action.outcome
  change ExceptT.run (do
      let answer ← liftM (change.run enforcer.state).1
      modify ({ · with state := (change.run enforcer.state).2 })
      return answer : Action Enforcer Error α) enforcer = _
  obtain ⟨error | answer, state⟩ := change.run enforcer.state
  · rfl
  · rfl

/-- What a change answers may be put in other words. -/
theorem run_onCopy_bind {α β : Type} (change : Editing α) (tell : α → β) (enforcer : Enforcer) :
    (change.onCopy >>= fun answer => pure (tell answer)).run enforcer = enforcer.answered
      (enforcer.update fun state => (change.outcome state).map fun result => (tell result.1, result.2)) := by
  have run : (change.onCopy >>= fun answer => pure (tell answer)).run enforcer =
      ExceptT.bindCont (fun answer => (pure (tell answer) : Action Enforcer Error β))
        (change.onCopy.run enforcer).1 (change.onCopy.run enforcer).2 := rfl
  rw [run, run_onCopy, update_eq, update_eq]
  cases change.outcome enforcer.state <;> rfl

end Enforcer

namespace Tenants

/-- The enforcer after a role has been given a permission, and a user the role. -/
def assigned : Enforcer :=
  Enforcer.run { enforcer with storage? := none }
    [.add "p" ["admin", "one", "allow"], .addRole "alice" "admin" (some "one")]

theorem reachable_assigned : assigned.Reachable := .intro ofText_text ofModel_model none _

end Tenants

namespace Mutation
variable (enforcer : Enforcer)

theorem run_add (type : String) (fields : List String) :
    (add type fields).run enforcer = enforcer.answered (enforcer.add type fields) := by
  have worked := funext fun state => State.outcome_insertRule type fields state
  rw [add, Enforcer.run_onCopy, worked]
  rfl

theorem run_addMany (type : String) (rules : List (List String)) :
    (addMany type rules).run enforcer = enforcer.answered (enforcer.addMany type rules) := by
  have worked : (State.insertRules type false rules).outcome = (·.addRules type rules) := by
    funext state
    rw [State.outcome_insertRules]
    cases state.addRules type rules <;> rfl
  rw [addMany, Enforcer.run_onCopy, worked]
  rfl

theorem run_remove (type : String) (fields : List String) :
    (remove type fields).run enforcer = enforcer.answered (enforcer.remove type fields) := by
  have worked := funext fun state => State.outcome_eraseRule type fields state
  rw [remove, Enforcer.run_onCopy, worked]
  rfl

theorem run_removeFiltered (type : String) (index : Word) (values : List String) :
    (removeFiltered type index values).run enforcer =
      enforcer.answered (enforcer.removeFiltered type index values) := by
  unfold removeFiltered
  rw [Enforcer.run_onCopy_bind, Enforcer.update_eq, State.outcome_eraseMatching]
  unfold Enforcer.removeFiltered
  rw [Enforcer.update_eq]
  cases enforcer.state.removeFiltered type index values <;> rfl

/-- Two lists have a length in all just when not both are empty. -/
theorem counted (links permissions : List (List String)) :
    decide (0 < links.length + permissions.length) = !(links.isEmpty && permissions.isEmpty) := by
  cases links <;> cases permissions <;> simp

theorem run_deleteSubject (name : String) (index : Word) :
    (deleteSubject name index).run enforcer = enforcer.answered (enforcer.deleteSubject name index) := by
  unfold deleteSubject
  change (Editing.onCopy (State.eraseSubject name index) >>= fun counts =>
    pure (decide (0 < counts.1 + counts.2))).run enforcer = _
  rw [Enforcer.run_onCopy_bind]
  unfold Enforcer.deleteSubject
  congr 2
  funext state
  rw [State.outcome_eraseSubject, Result.map_bind]
  congr 1
  funext first
  rw [Result.map_bind]
  congr 1
  funext second
  exact congrArg (fun answer => Except.ok (answer, second.2)) (counted first.1 second.1)

variable {enforcer : Enforcer} {operation : Operation} {mutation : Mutation}

/-- A call comes to the change that its operation works out, and that change tells the truth. -/
theorem exists_changed [Regex.Engine] (sound : enforcer.state.Sound)
    (stands : ofOperation? operation = some mutation) :
    ∃ changed, enforcer.changed? operation = some changed ∧
      mutation.run enforcer = enforcer.answered changed ∧
      enforcer.perform operation = enforcer.after changed ∧ enforcer.TellsTruth changed := by
  cases operation with
  | add type fields =>
    cases stands
    exact ⟨_, rfl, run_add .., rfl, Enforcer.tellsTruth_add sound _ _⟩
  | addMany type rules =>
    cases stands
    exact ⟨_, rfl, run_addMany .., rfl, Enforcer.tellsTruth_addMany _ _ _⟩
  | remove type fields =>
    cases stands
    exact ⟨_, rfl, run_remove .., rfl, Enforcer.tellsTruth_remove sound _ _⟩
  | removeFiltered type index values =>
    cases stands
    exact ⟨_, rfl, run_removeFiltered .., rfl, Enforcer.tellsTruth_removeFiltered _ _ _ _⟩
  | addRole user role domain? =>
    cases stands
    exact ⟨_, rfl, run_add .., rfl, Enforcer.tellsTruth_add sound _ _⟩
  | deleteRoleForUser user role domain? =>
    cases stands
    exact ⟨_, rfl, run_remove .., rfl, Enforcer.tellsTruth_remove sound _ _⟩
  | deleteRoles user domain? =>
    cases stands
    exact ⟨_, rfl, run_removeFiltered .., rfl, Enforcer.tellsTruth_removeFiltered _ _ _ _⟩
  | addPermission user permission =>
    cases stands
    exact ⟨_, rfl, run_add .., rfl, Enforcer.tellsTruth_add sound _ _⟩
  | deletePermission user permission =>
    cases stands
    exact ⟨_, rfl, run_remove .., rfl, Enforcer.tellsTruth_remove sound _ _⟩
  | deleteUser user =>
    cases stands
    exact ⟨_, rfl, run_deleteSubject .., rfl, Enforcer.tellsTruth_deleteSubject _ _ _⟩
  | deleteRole role =>
    cases stands
    exact ⟨_, rfl, run_deleteSubject .., rfl, Enforcer.tellsTruth_deleteSubject _ _ _⟩
  | loadModel | loadPolicy | replaceRules | clear | decide => cases stands

/-- A call that adds or removes rules either succeeds, and then answers just whether the rules are others
than before, or it fails and leaves the whole enforcer as it was: its rules, its links, and with them
every decision. It answers as the change does that its operation works out, and leads where the operation
leads. -/
theorem atomic_and_truthful [Regex.Engine] (reachable : enforcer.Reachable)
    (stands : ofOperation? operation = some mutation) :
    mutation.Ensures enforcer (fun changed after => changed = true ↔ after.rules ≠ enforcer.rules)
        (fun _ after => after = enforcer) ∧
      (∃ changed, enforcer.changed? operation = some changed ∧
        mutation.run enforcer = enforcer.answered changed) ∧
      enforcer.perform operation = (mutation.run enforcer).2 := by
  obtain ⟨changed, worked, run, performed, truth⟩ :=
    exists_changed (Enforcer.sound_of_reachable reachable) stands
  refine ⟨?_, ⟨changed, worked, run⟩, ?_⟩
  · unfold Action.Ensures
    rw [run]
    cases changed with
    | error error => rfl
    | ok result => exact truth result.1 result.2 rfl
  · rw [run]
    exact performed

/-- The second of two rules names no effect, so that neither is added. -/
theorem atomic_and_truthful_of_tenants :
    let rules := [["admin", "two", "allow"], ["admin", "three", "perhaps"]]
    Action.Ensures (addMany "p" rules) Tenants.assigned
        (fun changed after => changed = true ↔ after.rules ≠ Tenants.assigned.rules)
        (fun _ after => after = Tenants.assigned) ∧
      (∃ changed, Tenants.assigned.changed? (.addMany "p" rules) = some changed ∧
        (addMany "p" rules).run Tenants.assigned = Tenants.assigned.answered changed) ∧
      Tenants.assigned.perform (.addMany "p" rules) = ((addMany "p" rules).run Tenants.assigned).2 :=
  atomic_and_truthful Tenants.reachable_assigned rfl

/-- In the copy that is dropped, the first of them has been added. -/
example : ((State.insertRules "p" false [["admin", "two", "allow"], ["admin", "three", "perhaps"]]).run
    Tenants.assigned.state).2.store.rules "p" = [["admin", "one", "allow"], ["admin", "two", "allow"]] := by
  decide +kernel

end Mutation

end AccessControl
