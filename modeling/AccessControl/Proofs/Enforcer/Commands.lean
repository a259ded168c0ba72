import AccessControl.Program
import AccessControl.Proofs.Enforcer.Reloading
/-!
Commands on enforcers that match. An enforcer that has loaded its rules and one that has had them all along
give the same replies to a command, fail with the same error, and match again afterwards. A reply says
that the policy has changed just when it has. What a command is as a call on an enforcer in memory is told call
by call, whatever is done to perform the command.
-/
namespace AccessControl

/-- Two results that are the same error, or the same answer with states that have something in common. -/
inductive Agree {α σ : Type} (Common : σ → σ → Prop) :
    Except Error (α × σ) → Except Error (α × σ) → Prop
  | error (error : Error) : Agree Common (.error error) (.error error)
  | ok (answer : α) {after after' : σ} (common : Common after after') :
    Agree Common (.ok (answer, after)) (.ok (answer, after'))

namespace Agree

theorem of_error {α σ : Type} {Common : σ → σ → Prop} {error : Error} {result : Except Error (α × σ)}
    (agree : Agree Common (.error error) result) : result = .error error := by
  cases agree
  rfl

theorem of_ok {α σ : Type} {Common : σ → σ → Prop} {answer : α} {after : σ}
    {result : Except Error (α × σ)} (agree : Agree Common (.ok (answer, after)) result) :
    ∃ after', result = .ok (answer, after') ∧ Common after after' := by
  cases agree with
  | ok answer common => exact ⟨_, rfl, common⟩

theorem reply {Common : Enforcer → Enforcer → Prop} {change change' : Except Error (Bool × Enforcer)}
    (agree : Agree Common change change') :
    Agree Common (Command.reply change) (Command.reply change') := by
  cases agree with
  | error error => exact .error error
  | ok answer common => exact .ok _ common

end Agree

namespace State

namespace Matches
variable {one other : State} (sound : one.Sound) (sound' : other.Sound) (same : one.Matches other)
  {type : String} {table table' : RuleTable}

theorem trans {another : State} (same : one.Matches other) (further : other.Matches another) :
    one.Matches another :=
  ⟨same.compiled.trans further.compiled, fun type => (same.rules type).trans (further.rules type)⟩

theorem withChanged (same : one.Matches other) (found : one.store.tables.find? type = some table)
    (found' : other.store.tables.find? type = some table') {change : RuleTable → RuleTable}
    (relink : RoleRelation → RoleRelation) (rules : (change table).rules = (change table').rules) :
    (one.withChanged type change relink).Matches (other.withChanged type change relink) := by
  refine ⟨same.compiled, ?_⟩
  intro asked
  rw [rules_withChanged found, rules_withChanged found', rules, same.rules]

include sound sound' same

theorem addRule (type : String) (fields : List String) :
    Agree Matches (one.addRule type fields) (other.addRule type fields) := by
  rw [sound.addRule_eq, sound'.addRule_eq]
  rcases tables sound sound' same type with ⟨none, none'⟩ |
    ⟨table, table', found, found', cleared, rules⟩
  · rw [Store.table, Store.table, none, none']
    exact .error _
  · rw [Store.table_eq_ok.2 found, Store.table_eq_ok.2 found']
    change Agree Matches (table.validate type fields >>= fun _ => ite _ _ _)
      (table'.validate type fields >>= fun _ => ite _ _ _)
    rw [← table.validate_cleared, cleared, table'.validate_cleared, rules]
    cases table'.validate type fields with
    | error error => exact .error error
    | ok _ =>
      change Agree Matches (ite _ _ _) (ite _ _ _)
      split
      · exact .ok false same
      · refine .ok true (same.withChanged found found' _ ?_)
        simp only [RuleTable.insert, rules]

theorem removeRule (type : String) (fields : List String) :
    Agree Matches (one.removeRule type fields) (other.removeRule type fields) := by
  rw [sound.removeRule_eq, sound'.removeRule_eq]
  rcases tables sound sound' same type with ⟨none, none'⟩ |
    ⟨table, table', found, found', -, rules⟩
  · rw [Store.table, Store.table, none, none']
    exact .error _
  · rw [Store.table_eq_ok.2 found, Store.table_eq_ok.2 found']
    change Agree Matches (ite _ _ _) (ite _ _ _)
    rw [rules]
    split
    · refine .ok true (same.withChanged found found' _ ?_)
      simp only [RuleTable.erase, rules]
    · exact .ok false same

end Matches

namespace Sound
variable {state after : State} (sound : state.Sound) {type : String} {fields : List String}
include sound

/-- A rule is said to be added just when the rules are others afterwards. -/
theorem added_iff {added : Bool} (done : state.addRule type fields = .ok (added, after)) :
    added = true ↔ after.store.ruleSet ≠ state.store.ruleSet := by
  obtain ⟨table, found, -, ⟨rfl, -, rfl⟩ | ⟨rfl, -, rfl⟩⟩ := addRule_cases done
  · simp
  · simp only [true_iff]
    intro unchanged
    have rules := rules_withChanged found (·.insert fields) (addLink fields) type
    rw [Store.rules_eq, unchanged, ← Store.rules_eq, if_pos rfl, Store.rules_of_find? found] at rules
    have longer := congrArg List.length rules
    simp [RuleTable.insert] at longer

theorem removed_iff {removed : Bool} (done : state.removeRule type fields = .ok (removed, after)) :
    removed = true ↔ after.store.ruleSet ≠ state.store.ruleSet := by
  obtain ⟨table, found, ⟨rfl, -, rfl⟩ | ⟨rfl, present, rfl⟩⟩ := removeRule_cases done
  · simp
  · simp only [true_iff]
    intro unchanged
    have rules := rules_withChanged found (·.erase fields) (removeLink fields) type
    rw [Store.rules_eq, unchanged, ← Store.rules_eq, if_pos rfl, Store.rules_of_find? found] at rules
    have inside : fields ∈ table.rules := ((sound.tables type table found).indexed fields).1 present
    rw [rules] at inside
    simp [RuleTable.erase] at inside

end Sound
end State

namespace Enforcer
variable [Regex.Engine]

/-- An enforcer that has its rules from a storage, and one with the same rules from anywhere. -/
structure Mirrors (storage : Storage) (stored kept : Enforcer) : Prop where
  storage : stored.storage? = some storage
  settled : stored.Settled
  settled' : kept.Settled
  same : stored.state.Matches kept.state

theorem Settled.leads {enforcer : Enforcer} (settled : enforcer.Settled) {state : State}
    (leads : enforcer.state.Leads state) : Settled { enforcer with state } :=
  ⟨settled.orderly.leads leads, settled.coherent⟩

theorem Settled.decide {enforcer : Enforcer} (settled : enforcer.Settled) (request : List String) :
    (enforcer.decide request).2.Settled :=
  ⟨settled.orderly, (ready_next settled.ready (.decided request)).coherent⟩

namespace Mirrors
variable {storage : Storage} {stored kept : Enforcer} (mirrors : Mirrors storage stored kept)
include mirrors

theorem alike : stored.Alike kept := alike_of_matches mirrors.settled mirrors.settled' mirrors.same

theorem rules_eq : stored.rules = kept.rules :=
  State.Matches.ruleSet_eq mirrors.settled.orderly.sound mirrors.settled'.orderly.sound mirrors.same

/-- What is left behind by a decision does not count. -/
theorem decide (request : List String) : Mirrors storage stored (kept.decide request).2 :=
  ⟨mirrors.storage, mirrors.settled, mirrors.settled'.decide request, mirrors.same⟩

theorem update {change : State → Except Error (Bool × State)}
    (leads : ∀ {state answer after}, change state = .ok (answer, after) → state.Leads after)
    (agree : Agree State.Matches (change stored.state) (change kept.state)) :
    Agree (Mirrors storage) (stored.update change) (kept.update change) := by
  unfold Enforcer.update
  cases done : change stored.state with
  | error error =>
    rw [done] at agree
    rw [agree.of_error]
    exact .error error
  | ok result =>
    rw [done] at agree
    obtain ⟨state', done', same⟩ := agree.of_ok
    rw [done']
    exact .ok result.1 ⟨mirrors.storage, mirrors.settled.leads (leads done),
      mirrors.settled'.leads (leads done'), same⟩

theorem add (type : String) (fields : List String) :
    Agree (Mirrors storage) (stored.add type fields) (kept.add type fields) :=
  mirrors.update (fun done => .addRule .refl done)
    (State.Matches.addRule mirrors.settled.orderly.sound mirrors.settled'.orderly.sound mirrors.same
      type fields)

theorem remove (type : String) (fields : List String) :
    Agree (Mirrors storage) (stored.remove type fields) (kept.remove type fields) :=
  mirrors.update (fun done => .removeRule .refl done)
    (State.Matches.removeRule mirrors.settled.orderly.sound mirrors.settled'.orderly.sound mirrors.same
      type fields)

/-- A command has the same reply and the same effect on both. -/
theorem perform (command : Command) :
    Agree (Mirrors storage) (command.perform stored) (command.perform kept) := by
  cases command with
  | enforce request explain json =>
    simp only [Command.perform, mirrors.alike.enforce]
    cases kept.enforce request with
    | error error => exact .error error
    | ok verdict => exact .ok _ mirrors
  | addPolicy type fields => exact (mirrors.add type fields).reply
  | removePolicy type fields => exact (mirrors.remove type fields).reply
  | addRole user role domain? => exact (mirrors.add roleType (linkFields user role domain?)).reply
  | deleteRole user role domain? => exact (mirrors.remove roleType (linkFields user role domain?)).reply
  | roles user domain? implicit =>
    simp only [Command.perform, mirrors.alike.implicitRoles, mirrors.alike.roles]
    exact .ok _ mirrors
  | list type? =>
    simp only [Command.perform, mirrors.rules_eq]
    exact .ok _ mirrors

end Mirrors
end Enforcer

namespace Command
variable {enforcer after : Enforcer} {reply : Reply}

theorem changed_of_reply {change : Except Error (Bool × Enforcer)}
    (done : Command.reply change = .ok (reply, after)) : change = .ok (reply.changed, after) := by
  obtain ⟨⟨changed, result⟩, same, equal⟩ := Result.map_eq_ok.1 done
  cases equal
  exact same

/-- A change as a call on an enforcer in memory. It shows nothing, and one that fails leaves the enforcer as it
was. -/
def change (enforcer : Enforcer) : Except Error (Bool × Enforcer) → Outcome × Enforcer
  | .ok (_, after) => (.done [], after)
  | .error error => (.failed error, enforcer)

/-- What a command that has been performed comes to. One that fails leaves the enforcer as it was. -/
def settle (enforcer : Enforcer) : Except Error (Reply × Enforcer) → Outcome × Enforcer
  | .ok (reply, after) => (.done reply.output, after)
  | .error error => (.failed error, enforcer)

theorem settle_reply (enforcer : Enforcer) (changed : Except Error (Bool × Enforcer)) :
    settle enforcer (Command.reply changed) = change enforcer changed := by
  cases changed with
  | error error => rfl
  | ok result => rfl

variable [Regex.Engine]

/-- A command that succeeds changes nothing, or it adds or removes one rule and says whether that has
changed the policy. -/
theorem perform_cases {command : Command} (done : command.perform enforcer = .ok (reply, after)) :
    (reply.changed = false ∧ after = enforcer) ∨
      (∃ type fields state, enforcer.state.addRule type fields = .ok (reply.changed, state) ∧
        after = { enforcer with state }) ∨
      ∃ type fields state, enforcer.state.removeRule type fields = .ok (reply.changed, state) ∧
        after = { enforcer with state } := by
  have added {type : String} {fields : List String} {changed : Bool}
      (done : enforcer.add type fields = .ok (changed, after)) :
      ∃ state, enforcer.state.addRule type fields = .ok (changed, state) ∧
        after = { enforcer with state } := Enforcer.exists_of_update done
  have removed {type : String} {fields : List String} {changed : Bool}
      (done : enforcer.remove type fields = .ok (changed, after)) :
      ∃ state, enforcer.state.removeRule type fields = .ok (changed, state) ∧
        after = { enforcer with state } := Enforcer.exists_of_update done
  cases command with
  | enforce request explain json =>
    obtain ⟨verdict, -, same⟩ := Result.bind_eq_ok.1 done
    cases same
    exact .inl ⟨rfl, rfl⟩
  | addPolicy type fields => exact .inr (.inl ⟨_, _, added (changed_of_reply done)⟩)
  | removePolicy type fields => exact .inr (.inr ⟨_, _, removed (changed_of_reply done)⟩)
  | addRole user role domain? => exact .inr (.inl ⟨_, _, added (changed_of_reply done)⟩)
  | deleteRole user role domain? => exact .inr (.inr ⟨_, _, removed (changed_of_reply done)⟩)
  | roles user domain? implicit =>
    cases done
    exact .inl ⟨rfl, rfl⟩
  | list type? =>
    cases done
    exact .inl ⟨rfl, rfl⟩

/-- A command replies that the policy has changed just when the rules are others afterwards. -/
theorem changed_iff (settled : enforcer.Settled) {command : Command}
    (done : command.perform enforcer = .ok (reply, after)) :
    reply.changed = true ↔ after.rules ≠ enforcer.rules := by
  have sound := settled.orderly.sound
  rcases perform_cases done with ⟨same, rfl⟩ | ⟨type, fields, state, added, rfl⟩ |
    ⟨type, fields, state, removed, rfl⟩
  · simp [same]
  · exact sound.added_iff added
  · exact sound.removed_iff removed

/-- A command does not touch the model. -/
theorem model_eq {command : Command} (done : command.perform enforcer = .ok (reply, after)) :
    after.model = enforcer.model := by
  rcases perform_cases done with ⟨-, rfl⟩ | ⟨type, fields, state, added, rfl⟩ |
    ⟨type, fields, state, removed, rfl⟩
  · rfl
  · exact congrArg CompiledModel.model (State.Leads.addRule .refl added).compiled_eq
  · exact congrArg CompiledModel.model (State.Leads.removeRule .refl removed).compiled_eq

/-- What a command is as a call on an enforcer in memory: its outcome, and the enforcer after it. A decision
leaves behind the patterns that were compiled for it. -/
def call (enforcer : Enforcer) : Command → Outcome × Enforcer
  | enforce request explain json =>
    match enforcer.decide request with
    | (.ok verdict, after) => (.done (if json then [verdict.json.write] else verdict.lines explain), after)
    | (.error error, after) => (.failed error, after)
  | addPolicy type fields => change enforcer (enforcer.add type fields)
  | removePolicy type fields => change enforcer (enforcer.remove type fields)
  | addRole user role domain? => change enforcer (enforcer.addRole user role domain?)
  | deleteRole user role domain? => change enforcer (enforcer.deleteRoleForUser user role domain?)
  | roles user domain? false => (.done (enforcer.roles user domain?), enforcer)
  | roles user domain? true => (.done (enforcer.implicitRoles user domain?), enforcer)
  | list none => (.done (enforcer.rules.toList.map Rule.text), enforcer)
  | list (some type) => (.done ((enforcer.rules.toList.filter (type == ·.type)).map Rule.text), enforcer)

/-- The outcomes of some calls on one enforcer, one after another, and the enforcer after them. -/
def callEach (enforcer : Enforcer) : List Command → List Outcome × Enforcer
  | [] => ([], enforcer)
  | command :: rest =>
    let (outcome, after) := command.call enforcer
    let (later, last) := callEach after rest
    (outcome :: later, last)

/-- A call is what the command comes to when it is performed, but for what a decision leaves behind. -/
theorem call_cases (enforcer : Enforcer) (command : Command) :
    command.call enforcer = settle enforcer (command.perform enforcer) ∨
      ∃ request, command.call enforcer =
          ((settle enforcer (command.perform enforcer)).1, (enforcer.decide request).2) ∧
        (settle enforcer (command.perform enforcer)).2 = enforcer := by
  cases command with
  | enforce request explain json =>
    refine .inr ⟨request, ?_⟩
    simp only [call, perform, Enforcer.enforce]
    obtain ⟨error | verdict, after⟩ := enforcer.decide request
    · exact ⟨rfl, rfl⟩
    · exact ⟨rfl, rfl⟩
  | addPolicy | removePolicy | addRole | deleteRole => exact .inl (settle_reply enforcer _).symm
  | roles user domain? implicit => cases implicit <;> exact .inl rfl
  | list type? =>
    left
    cases type? with
    | none => simp only [call, perform, settle, Option.all_none, List.filter_true]
    | some type => rfl

theorem outcome_call (enforcer : Enforcer) (command : Command) :
    (command.call enforcer).1 = (settle enforcer (command.perform enforcer)).1 := by
  rcases call_cases enforcer command with same | ⟨request, same, -⟩ <;> rw [same]

theorem rules_call (enforcer : Enforcer) (command : Command) :
    (command.call enforcer).2.rules = (settle enforcer (command.perform enforcer)).2.rules := by
  rcases call_cases enforcer command with same | ⟨request, same, unchanged⟩
  · rw [same]
  · rw [same, unchanged]
    rfl

end Command

/-- What a call leaves behind besides its answer does not count. -/
theorem Enforcer.Mirrors.call [Regex.Engine] {storage : Storage} {stored kept : Enforcer} {command : Command}
    (mirrors : Mirrors storage stored (Command.settle kept (command.perform kept)).2) :
    Mirrors storage stored (command.call kept).2 := by
  rcases Command.call_cases kept command with same | ⟨request, same, unchanged⟩
  · exact same ▸ mirrors
  · rw [unchanged] at mirrors
    exact same ▸ mirrors.decide request

end AccessControl
