import AccessControl.Proofs.Enforcer.Additions
import AccessControl.Proofs.Enforcer.Origin
import AccessControl.Proofs.Enforcer.Removals
/-!
Additions that are taken back. A link that was new leaves traces in the role graph when it is gone: its names
keep their places, and its domain keeps its graph. No answer tells of them.
-/
namespace AccessControl

namespace State.Sound
variable {state : State} (sound : state.Sound)
include sound

/-- A new rule can be added, then be removed, and then the rules of each type are those from before. -/
theorem exists_undone {rule : Rule} (valid : rule.Valid state.compiled.model)
    (fresh : rule.fields ∉ state.store.rules rule.type) :
    ∃ added removed, state.addRule rule.type rule.fields = .ok (true, added) ∧
      added.removeRule rule.type rule.fields = .ok (true, removed) ∧
      ∀ type, removed.store.rules type = state.store.rules type := by
  have declared := Store.validate_eq_ok.1 ((Rule.valid_iff sound.keyed).1 valid)
  obtain ⟨added, done, grown⟩ := sound.exists_addRule declared fresh
  have present : rule.fields ∈ added.store.rules rule.type := by simp [grown]
  obtain ⟨removed, undone, left⟩ := (sound.addRule done).exists_removeRule present
  refine ⟨added, removed, done, undone, fun type => ?_⟩
  rw [left, grown]
  by_cases same : rule.type = type
  · subst same
    have kept : (state.store.rules rule.type).filter (fun fields => !(fields == rule.fields)) =
        state.store.rules rule.type :=
      List.filter_eq_self.2 fun fields old => by
        simpa using fun equal : fields = rule.fields => fresh (equal ▸ old)
    simp [kept]
  · simp [same, Ne.symm same]

end State.Sound

namespace Enforcer
variable {enforcer : Enforcer} {rule : Rule}

/-- A valid rule that is not there can be added and removed again, and afterwards every question is answered
as it was before. -/
theorem undone_of_reachable [Regex.Engine] (reachable : enforcer.Reachable) (valid : rule.Valid enforcer.model)
    (fresh : rule.fields ∉ enforcer.get rule.type) :
    ∃ added removed, (Mutation.add rule.type rule.fields).run enforcer = (.ok true, added) ∧
      (Mutation.remove rule.type rule.fields).run added = (.ok true, removed) ∧
      removed.SameAnswers enforcer := by
  have settled := settled_of_reachable reachable
  obtain ⟨added, removed, done, undone, rules⟩ := settled.orderly.sound.exists_undone valid fresh
  have leads : enforcer.state.Leads removed := .removeRule (.addRule .refl done) undone
  refine ⟨{ enforcer with state := added }, { enforcer with state := removed }, ?_, ?_, ?_⟩
  · rw [Mutation.run_add]
    exact answered_of_ok done
  · rw [Mutation.run_remove]
    exact answered_of_ok undone
  · apply sameAnswers_of_leads settled (settled.leads leads) settled leads .refl rules
    intro type fields inside
    change fields ∈ removed.store.rules type at inside
    rwa [rules] at inside

/-- A link with two new names in a new domain. -/
theorem undone_of_tenants :
    ∃ added removed, (Mutation.add "g" ["bob", "staff", "two"]).run Tenants.assigned = (.ok true, added) ∧
      (Mutation.remove "g" ["bob", "staff", "two"]).run added = (.ok true, removed) ∧
      removed.SameAnswers Tenants.assigned := by
  have declared : Tenants.assigned.model.roles.find? "g" = some .perDomain := by with_unfolding_all rfl
  have valid : Rule.Valid Tenants.assigned.model ⟨"g", ["bob", "staff", "two"]⟩ :=
    ⟨.role declared rfl, by decide⟩
  have undone := undone_of_reachable Tenants.reachable_assigned valid (by decide +kernel)
  exact undone

/-- Its names are still in the graph of their domain. -/
example : ((Tenants.assigned.run [.add "g" ["bob", "staff", "two"],
    .remove "g" ["bob", "staff", "two"]]).relation.graph (some "two")).names = ["bob", "staff"] := by
  decide +kernel

end Enforcer
end AccessControl
