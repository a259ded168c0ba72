import AccessControl.Enforcer.Operation
import AccessControl.Proofs.Enforcer.Changes
import AccessControl.Proofs.Enforcer.Storing
/-!
What an operation can do to an enforcer. The many operations come down to four: rules are added and
removed, the rules are loaded anew, the model is replaced, or a decision is made and leaves patterns
behind. An invariant of enforcers has to be shown for these four only.
-/
namespace AccessControl

namespace CompiledModel
variable [Regex.Engine]

/-- A model compiles just when its matcher does and its effect is an expression over the policy type
of the matcher. -/
theorem compile_eq_ok {model : Model} {compiled : CompiledModel} :
    compile model = .ok compiled ↔ compiled.model = model ∧
      Matcher.compile model = .ok compiled.matcher ∧
      EffectRule.ofText? compiled.matcher.type model.effect = some compiled.effect := by
  unfold compile
  rw [Result.bind_eq_ok]
  constructor
  · rintro ⟨matcher, matched, rest⟩
    split at rest
    next effect read =>
      cases rest
      exact ⟨rfl, Result.mapError_eq_ok.1 matched, read⟩
    next => cases rest
  · rintro ⟨rfl, matched, read⟩
    refine ⟨compiled.matcher, Result.mapError_eq_ok.2 matched, ?_⟩
    rw [read]
    rfl

theorem compile_compiled {model : Model} {compiled : CompiledModel}
    (compiles : compile model = .ok compiled) : compile compiled.model = .ok compiled := by
  rw [(compile_eq_ok.1 compiles).1]
  exact compiles

end CompiledModel

namespace Enforcer
variable {enforcer after : Enforcer}

theorem exists_of_update {α : Type} {change : State → Except Error (α × State)} {answer : α}
    (done : enforcer.update change = .ok (answer, after)) :
    ∃ state, change enforcer.state = .ok (answer, state) ∧ after = { enforcer with state } := by
  obtain ⟨⟨_, state⟩, made, same⟩ := Result.bind_eq_ok.1 done
  cases same
  exact ⟨state, made, rfl⟩

variable [Regex.Engine]

/-- An enforcer, and what one operation can make of it. -/
inductive Next (enforcer : Enforcer) : Enforcer → Prop
  | changed {state : State} (leads : enforcer.state.Leads state) : Next enforcer { enforcer with state }
  | reloaded {state : State} (leads : (State.ofModel enforcer.state.compiled).Leads state) :
      Next enforcer { enforcer with state }
  | replaced {text : String} {model : Model} {compiled : CompiledModel} {state : State}
      (read : Model.ofText text = .ok model) (compiles : CompiledModel.compile model = .ok compiled)
      (leads : (State.ofModel compiled).Leads state) :
      Next enforcer { enforcer with state, patterns := .empty }
  | decided (request : List String) : Next enforcer (enforcer.decide request).2

namespace Next

theorem unchanged : enforcer.Next enforcer := .changed .refl

theorem of_change {changed : Except Error Enforcer}
    (step : ∀ after, changed = .ok after → enforcer.Next after) :
    enforcer.Next (enforcer.orKeep changed) := by
  cases changed with
  | ok after => exact step after rfl
  | error _ => exact unchanged

theorem of_answered {α : Type} {changed : Except Error (α × Enforcer)}
    (step : ∀ answer after, changed = .ok (answer, after) → enforcer.Next after) :
    enforcer.Next (enforcer.after changed) := by
  cases changed with
  | ok result => exact step result.1 result.2 rfl
  | error _ => exact unchanged

theorem of_update {α : Type} {change : State → Except Error (α × State)} {answer : α}
    (step : ∀ state, change enforcer.state = .ok (answer, state) → enforcer.state.Leads state)
    (done : enforcer.update change = .ok (answer, after)) : enforcer.Next after := by
  obtain ⟨state, changed, rfl⟩ := exists_of_update done
  exact .changed (step state changed)

theorem add (type : String) (fields : List String) :
    enforcer.Next (enforcer.after (enforcer.add type fields)) := by
  apply of_answered
  intro answer result
  exact of_update fun _ done => .addRule .refl done

theorem remove (type : String) (fields : List String) :
    enforcer.Next (enforcer.after (enforcer.remove type fields)) := by
  apply of_answered
  intro answer result
  exact of_update fun _ done => .removeRule .refl done

theorem removeFiltered (type : String) (index : Word) (values : List String) :
    enforcer.Next (enforcer.after (enforcer.removeFiltered type index values)) := by
  apply of_answered
  intro answer result done
  obtain ⟨⟨removed, changed⟩, updated, same⟩ := Result.bind_eq_ok.1 done
  cases same
  exact of_update (fun _ filtered => .removeFiltered .refl filtered) updated

theorem deleteSubject (name : String) (index : Word) :
    enforcer.Next (enforcer.after (enforcer.deleteSubject name index)) := by
  apply of_answered
  intro answer result
  apply of_update
  intro state done
  obtain ⟨⟨links, middle⟩, unlinked, rest⟩ := Result.bind_eq_ok.1 done
  obtain ⟨⟨permissions, last⟩, removed, same⟩ := Result.bind_eq_ok.1 rest
  cases same
  -- Without a role type there are no links to remove.
  have first : enforcer.state.Leads middle := by
    unfold State.removeLinksOf at unlinked
    split at unlinked
    · exact .removeFiltered .refl unlinked
    · cases unlinked
      exact .refl
  exact first.removeFiltered removed

theorem replaceRules {rules : RuleSet} (done : enforcer.replaceRules rules = .ok after) :
    enforcer.Next after := by
  obtain ⟨state, loaded, same⟩ := Result.bind_eq_ok.1 done
  cases same
  exact .reloaded (State.Leads.addAll .refl loaded)

theorem loadPolicy {files : FileTree} (done : enforcer.loadPolicy files = .ok after) :
    enforcer.Next after := by
  obtain ⟨storage, rules, -, -, replaced⟩ := loadPolicy_eq_ok.1 done
  exact replaceRules replaced

theorem readModel {text : String} (done : enforcer.readModel text = .ok after) :
    enforcer.Next after := by
  obtain ⟨model, read, loaded⟩ := Result.bind_eq_ok.1 done
  obtain ⟨compiled, compiles, rest⟩ := Result.bind_eq_ok.1 loaded
  obtain ⟨state, restored, same⟩ := Result.bind_eq_ok.1 rest
  cases same
  exact .replaced (Result.mapError_eq_ok.1 read) compiles (State.Leads.addAll .refl restored)

end Next

/-- Every operation does one of the four things, whether it succeeds or fails. -/
theorem next_perform (enforcer : Enforcer) (operation : Operation) :
    enforcer.Next (enforcer.perform operation) := by
  cases operation with
  | add type fields => exact .add type fields
  | addMany type rules =>
    apply Next.of_answered
    intro answer result
    exact Next.of_update fun _ done => State.Leads.addRules .refl done
  | remove type fields => exact .remove type fields
  | removeFiltered type index values => exact .removeFiltered type index values
  | addRole user role domain? => exact .add roleType (linkFields user role domain?)
  | deleteRoleForUser user role domain? => exact .remove roleType (linkFields user role domain?)
  | deleteRoles user domain? => exact .removeFiltered roleType 0 (linkFields user "" domain?)
  | addPermission user permission => exact .add permissionType (user :: permission)
  | deletePermission user permission => exact .remove permissionType (user :: permission)
  | deleteUser user => exact .deleteSubject user 0
  | deleteRole role => exact .deleteSubject role 1
  | loadModel text =>
    apply Next.of_change
    intro result
    exact Next.readModel
  | loadPolicy files =>
    apply Next.of_change
    intro result
    exact Next.loadPolicy
  | replaceRules rules =>
    apply Next.of_change
    intro result
    exact Next.replaceRules
  | clear => exact .reloaded .refl
  | decide request => exact .decided request

/-- What every operation keeps holds after a run of operations. -/
theorem run_induction {motive : Enforcer → Prop}
    (step : ∀ {enforcer after : Enforcer}, motive enforcer → enforcer.Next after → motive after)
    (start : motive enforcer) (operations : List Operation) : motive (enforcer.run operations) := by
  induction operations generalizing enforcer with
  | nil => exact start
  | cons operation rest ih => exact ih (step start (enforcer.next_perform operation))

/-- What holds for new enforcers and is kept by every operation holds for all reachable enforcers. -/
theorem reachable_induction {motive : Enforcer → Prop}
    (start : ∀ {text : String} {model : Model} {compiled : CompiledModel} (storage? : Option Storage),
      Model.ofText text = .ok model → CompiledModel.compile model = .ok compiled →
      motive { state := .ofModel compiled, storage? })
    (step : ∀ {enforcer after : Enforcer}, motive enforcer → enforcer.Next after → motive after)
    (reachable : enforcer.Reachable) : motive enforcer := by
  obtain ⟨read, made, storage?, operations⟩ := reachable
  obtain ⟨compiled, compiles, rfl⟩ := Result.map_eq_ok.1 made
  exact run_induction step (start storage? read compiles) operations

/-- What operations make of a reachable enforcer is reachable. -/
theorem Reachable.run (reachable : enforcer.Reachable) (operations : List Operation) :
    (enforcer.run operations).Reachable := by
  obtain ⟨read, made, storage?, earlier⟩ := reachable
  have whole := Reachable.intro read made storage? (earlier ++ operations)
  rwa [Enforcer.run, List.foldl_append] at whole

end Enforcer
end AccessControl
