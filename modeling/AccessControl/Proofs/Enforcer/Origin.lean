import AccessControl.Proofs.Enforcer.Remodelling
import AccessControl.Proofs.Roles.Members
/-!
Enforcers of one origin. Whatever rules are added and removed, a role relation keeps the names that it has in
their places. Two enforcers that have come in this way from one, and have in the end the same rules, all of
which were there from the beginning, therefore answer every question alike, also when they are asked for the
members of a role.
-/
namespace AccessControl

namespace State
variable {state after : State} {type : String}

theorem keepsNames_addLink (fields : List String) (relation : RoleRelation) :
    relation.KeepsNames (addLink fields relation) := by
  unfold addLink
  split
  · exact RoleRelation.keepsNames_add _ _ _ _
  · exact .refl _

theorem keepsNames_removeLink (fields : List String) (relation : RoleRelation) :
    relation.KeepsNames (removeLink fields relation) := by
  unfold removeLink
  split
  · exact RoleRelation.keepsNames_remove _ _ _ _
  · exact .refl _

theorem keepsNames_removeLinks (removed : List (List String)) (relation : RoleRelation) :
    relation.KeepsNames (removed.foldl (fun relation fields => removeLink fields relation) relation) := by
  induction removed generalizing relation with
  | nil => exact .refl _
  | cons fields rest ih => exact (keepsNames_removeLink fields relation).trans (ih _)

/-- Whether the relations of a state are there in another one, with their names in the same places. -/
def KeepsNames (state after : State) : Prop :=
  ∀ type relation, state.roles.find? type = some relation →
    ∃ grown, after.roles.find? type = some grown ∧ relation.KeepsNames grown

theorem KeepsNames.refl (state : State) : state.KeepsNames state :=
  fun _ relation found => ⟨relation, found, .refl _⟩

theorem KeepsNames.trans {middle : State} (first : state.KeepsNames middle) (second : middle.KeepsNames after) :
    state.KeepsNames after := by
  intro type relation found
  obtain ⟨grown, there, kept⟩ := first type relation found
  obtain ⟨last, found', kept'⟩ := second type grown there
  exact ⟨last, found', kept.trans kept'⟩

theorem keepsNames_withChanged (state : State) (type : String) (change : RuleTable → RuleTable)
    {relink : RoleRelation → RoleRelation}
    (kept : ∀ relation : RoleRelation, relation.KeepsNames (relink relation)) :
    state.KeepsNames (state.withChanged type change relink) := by
  intro other relation found
  unfold withChanged
  dsimp only
  split
  · rw [Catalogue.find?_modify, found]
    split
    · exact ⟨relink relation, rfl, kept relation⟩
    · exact ⟨relation, rfl, .refl _⟩
  · exact ⟨relation, found, .refl _⟩

/-- Names keep their places while rules are added and removed. -/
theorem Leads.keepsNames (leads : state.Leads after) : state.KeepsNames after := by
  induction leads with
  | refl => exact .refl _
  | addRule _ done ih =>
    obtain ⟨_, _, _, ⟨-, -, rfl⟩ | ⟨-, -, rfl⟩⟩ := addRule_cases done
    · exact ih
    · exact ih.trans (keepsNames_withChanged _ _ _ (keepsNames_addLink _))
  | removeRule _ done ih =>
    obtain ⟨_, _, ⟨-, -, rfl⟩ | ⟨-, -, rfl⟩⟩ := removeRule_cases done
    · exact ih
    · exact ih.trans (keepsNames_withChanged _ _ _ (keepsNames_removeLink _))
  | removeFiltered _ done ih =>
    obtain ⟨_, _, -, ⟨-, rfl⟩ | ⟨-, rfl⟩⟩ := removeFiltered_cases done
    · exact ih
    · exact ih.trans (keepsNames_withChanged _ _ _ (keepsNames_removeLinks _))

end State

namespace Enforcer
variable [Regex.Engine] {origin one other : Enforcer}

/-- Two enforcers that cannot be told apart by asking them: for decisions and their explanations, for their
rules, and for members and roles, with the order of what is listed. -/
structure SameAnswers (one other : Enforcer) : Prop where
  alike : one.Alike other
  model : one.model = other.model
  rules : one.rules = other.rules
  users : ∀ role domain?, one.users role domain? = other.users role domain?
  relations : ∀ type,
    Option.Rel RoleRelation.SameAnswers (one.state.roles.find? type) (other.state.roles.find? type)

/-- What has come from one enforcer to the same rules, all of them rules of the beginning, answers alike. -/
theorem sameAnswers_of_leads (settled : origin.Settled) (settled' : one.Settled) (settled'' : other.Settled)
    (leads : origin.state.Leads one.state) (leads' : origin.state.Leads other.state)
    (rules : ∀ type, one.get type = other.get type) (fewer : ∀ type, one.get type ⊆ origin.get type) :
    one.SameAnswers other := by
  have same : one.state.Matches other.state := ⟨leads.compiled_eq.trans leads'.compiled_eq.symm, rules⟩
  have relations (type : String) :
      Option.Rel RoleRelation.SameAnswers (one.state.roles.find? type) (other.state.roles.find? type) := by
    rcases same.sharesLinks.relations settled'.orderly settled''.orderly type with ⟨none, none'⟩ |
      ⟨relation, relation', here, there, direct⟩
    · rw [none, none']
      exact .none
    · rcases settled.orderly.find?_roles settled'.orderly leads.compiled_eq.symm type with ⟨-, absent⟩ |
        ⟨before, _, first, -⟩
      · rw [here] at absent
        cases absent
      · obtain ⟨_, found, grown⟩ := leads.keepsNames type before first
        obtain ⟨_, found', grown'⟩ := leads'.keepsNames type before first
        cases found.symm.trans here
        cases found'.symm.trans there
        rw [here, there]
        refine .some (RoleRelation.sameAnswers_of_origin grown grown' ?_ direct)
        intro name domain?
        change relation.rolesOf name (some (domain?.getD defaultDomain)) ⊆
          before.rolesOf name (some (domain?.getD defaultDomain))
        rw [settled'.orderly.recorded type relation here, settled.orderly.recorded type before first]
        exact List.filterMap_subset _ (fewer type)
  refine ⟨alike_of_matches settled' settled'' same, ?_, Store.ruleSet_congr rules, ?_, relations⟩
  · exact congrArg CompiledModel.model same.compiled
  · intro role domain?
    unfold users relation
    have asked := relations roleType
    generalize one.state.roles.find? roleType = here, other.state.roles.find? roleType = there at asked
    cases asked with
    | none => rfl
    | some answers => exact answers.membersOf role domain?

end Enforcer
end AccessControl
