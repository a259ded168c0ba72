import AccessControl.Proofs.Enforcer.Decisions
import AccessControl.Proofs.Roles.Walk
/-!
The order of links. A role relation records some rules when the direct roles of each member are those
that the rules give it, in the order of the rules. Every reachable enforcer has its links recorded so:
a removed link leaves no gap, and a link that is added again comes last, just as its rule does. What came
before therefore shows in no relation.
-/
namespace AccessControl

/-- The role that a grouping rule gives to a member in a domain, if it does. -/
def roleFor? (member domain : String) (fields : List String) : Option String :=
  (linkOf? fields).bind fun link =>
    if link.1 = member ∧ link.2.2 = domain then some link.2.1 else none

theorem roleFor?_eq_some_iff {member domain role : String} {fields : List String} :
    roleFor? member domain fields = some role ↔ linkOf? fields = some (member, role, domain) := by
  unfold roleFor?
  rcases linkOf? fields with _ | ⟨member', role', domain'⟩
  · simp
  · by_cases same : member' = member ∧ domain' = domain
    · simp [same]
    · have distinct : ¬(member' = member ∧ role' = role ∧ domain' = domain) := by
        rintro ⟨sameMember, -, sameDomain⟩
        exact same ⟨sameMember, sameDomain⟩
      simp [same, distinct]

namespace State

/-- Adding and taking back a link is a matter of the link alone, and not of the fields it is read from. -/
theorem addLink_eq (fields : List String) (relation : RoleRelation) :
    addLink fields relation = match linkOf? fields with
      | some (member, role, domain) => (relation.add member role (some domain)).2
      | none => relation := by
  match fields with
  | [] => rfl
  | [_] => rfl
  | _ :: _ :: _ => rfl

theorem removeLink_eq (fields : List String) (relation : RoleRelation) :
    removeLink fields relation = match linkOf? fields with
      | some (member, role, domain) => (relation.remove member role (some domain)).2
      | none => relation := by
  match fields with
  | [] => rfl
  | [_] => rfl
  | _ :: _ :: _ => rfl

theorem rolesOf_addLink {relation : RoleRelation} {fields : List String}
    (fresh : ∀ member role domain, linkOf? fields = some (member, role, domain) →
      role ∉ relation.rolesOf member (some domain)) (member domain : String) :
    (addLink fields relation).rolesOf member (some domain) =
      relation.rolesOf member (some domain) ++ (roleFor? member domain fields).toList := by
  rw [addLink_eq, roleFor?]
  rcases link : linkOf? fields with _ | ⟨member', role, domain'⟩
  · exact (List.append_nil _).symm
  · have new := fresh member' role domain' link
    simp only [RoleRelation.rolesOf_add, Option.getD_some, Option.bind_some]
    by_cases same : member' = member ∧ domain' = domain
    · rw [if_pos ⟨same.1.symm, same.2.symm, new⟩, if_pos same]
      rfl
    · rw [if_neg fun here => same ⟨here.1.symm, here.2.1.symm⟩, if_neg same]
      exact (List.append_nil _).symm

theorem rolesOf_removeLink (fields : List String) (relation : RoleRelation)
    (member domain : String) :
    (removeLink fields relation).rolesOf member (some domain) =
      (relation.rolesOf member (some domain)).filter fun role =>
        linkOf? fields != some (member, role, domain) := by
  rw [removeLink_eq]
  rcases linkOf? fields with _ | ⟨member', role, domain'⟩
  · exact (List.filter_eq_self.2 fun _ _ => rfl).symm
  · simp only [RoleRelation.rolesOf_remove, Option.getD_some]
    by_cases same : member = member' ∧ domain = domain'
    · rw [if_pos same, same.1, same.2]
      apply List.filter_congr
      intro other _
      have swapped : other = role ↔ role = other := eq_comm
      simp [bne, swapped]
    · rw [if_neg same, List.filter_eq_self.2]
      intro other _
      have distinct : ¬(member' = member ∧ role = other ∧ domain' = domain) := by
        rintro ⟨sameMember, -, sameDomain⟩
        exact same ⟨sameMember.symm, sameDomain.symm⟩
      simpa using distinct

end State

namespace RoleRelation

/-- The relation has the direct roles of each member as the rules list them. -/
def Records (relation : RoleRelation) (rules : List (List String)) : Prop :=
  ∀ member domain, relation.rolesOf member (some domain) = rules.filterMap (roleFor? member domain)

theorem records_empty : empty.Records [] := by
  intro member domain
  rfl

variable {relation : RoleRelation} {rules : List (List String)}

/-- A link is added last, as its rule is, provided that no rule stands for it already. -/
theorem Records.addLink (records : relation.Records rules) {fields : List String}
    (fresh : ∀ other ∈ rules, linkOf? other ≠ linkOf? fields) :
    (State.addLink fields relation).Records (rules ++ [fields]) := by
  intro member domain
  rw [State.rolesOf_addLink, records, List.filterMap_append]
  · cases given : roleFor? member domain fields with
    | none => simp [given]
    | some role => simp [given]
  · intro member role domain link present
    rw [records] at present
    obtain ⟨other, inside, given⟩ := List.mem_filterMap.1 present
    exact fresh other inside ((roleFor?_eq_some_iff.1 given).trans link.symm)

/-- A link goes, and with it whatever rules stand for it. -/
theorem Records.removeLink (records : relation.Records rules) (fields : List String) :
    (State.removeLink fields relation).Records
      (rules.filter fun other => linkOf? other != linkOf? fields) := by
  intro member domain
  rw [State.rolesOf_removeLink, records, List.filter_filterMap, List.filterMap_filter]
  congr 1
  funext other
  cases given : roleFor? member domain other with
  | none => simp
  | some role =>
    rw [roleFor?_eq_some_iff.1 given]
    by_cases same : linkOf? fields = some (member, role, domain)
    · simp [same]
    · simp [same, Ne.symm same]

theorem Records.foldl_removeLink (removed : List (List String)) (records : relation.Records rules) :
    (removed.foldl (fun relation fields => State.removeLink fields relation) relation).Records
      (rules.filter fun other => removed.all fun fields => linkOf? other != linkOf? fields) := by
  induction removed generalizing relation rules with
  | nil => simpa using records
  | cons first rest ih =>
    have later := ih (records.removeLink first)
    rw [List.filter_filter] at later
    simpa [Bool.and_comm] using later

/-- Some rules go, and their links with them. -/
theorem Records.removeLinks (records : relation.Records rules) {removed : List (List String)}
    {keep : List String → Bool}
    (parted : ∀ fields ∈ rules, keep fields = true ↔ fields ∉ removed)
    (apart : ∀ one ∈ rules, ∀ other ∈ removed, linkOf? one = linkOf? other → one = other) :
    (removed.foldl (fun relation fields => State.removeLink fields relation) relation).Records
      (rules.filter keep) := by
  have kept : rules.filter keep =
      rules.filter fun other => removed.all fun fields => linkOf? other != linkOf? fields := by
    apply List.filter_congr
    intro one inside
    rw [Bool.eq_iff_iff, parted one inside, List.all_eq_true]
    constructor
    · intro stays other gone
      have distinct : linkOf? one ≠ linkOf? other := by
        intro same
        exact stays (apart one inside other gone same ▸ gone)
      simpa using distinct
    · intro untouched gone
      simpa using untouched one gone
  rw [kept]
  exact records.foldl_removeLink removed

end RoleRelation

namespace State

/-- The relation of every role type records the rules of the type. -/
def Recorded (state : State) : Prop :=
  ∀ type relation, state.roles.find? type = some relation → relation.Records (state.store.rules type)

theorem recorded_ofModel (compiled : CompiledModel) : (ofModel compiled).Recorded := by
  intro type relation found
  obtain ⟨shape, -, rfl⟩ : ∃ shape, compiled.model.roles.find? type = some shape ∧
      RoleRelation.empty = relation := by
    simpa [ofModel, Catalogue.find?_map] using found
  change RoleRelation.empty.Records ((Store.ofModel compiled.model).rules type)
  rw [Store.rules_ofModel]
  exact RoleRelation.records_empty

namespace Recorded
variable {state after : State} (sound : state.Sound) (recorded : state.Recorded) {type : String}
include sound recorded

theorem addRule {fields : List String} {added : Bool}
    (done : state.addRule type fields = .ok (added, after)) : after.Recorded := by
  obtain ⟨table, found, valid, ⟨-, -, rfl⟩ | ⟨-, absent, rfl⟩⟩ := addRule_cases done
  · exact recorded
  · intro other relation known
    refine sound.related_withChanged recorded found ?_ known
    intro before role records
    apply records.addLink
    intro rule inside same
    -- A rule with the same link would be the added rule itself, which was not there.
    have tableSound := sound.tables type table found
    have equal : rule = fields :=
      sound.eq_of_link role found (tableSound.valid rule inside) valid same
    have listed := (tableSound.indexed fields).2 (equal ▸ inside)
    rw [absent] at listed
    cases listed

theorem removeRule {fields : List String} {removed : Bool}
    (done : state.removeRule type fields = .ok (removed, after)) : after.Recorded := by
  obtain ⟨table, found, ⟨-, -, rfl⟩ | ⟨-, present, rfl⟩⟩ := removeRule_cases done
  · exact recorded
  · have inside := ((sound.tables type table found).indexed fields).1 present
    intro other relation known
    refine sound.related_withChanged recorded found ?_ known
    intro before role records
    change (([fields]).foldl (fun relation fields => removeLink fields relation) before).Records _
    apply records.removeLinks
    · intro rule _
      simp
    · intro one here other only
      rw [List.mem_singleton.1 only]
      exact sound.apart role found here inside

theorem removeFiltered {index : Word} {values : List String} {removed : List (List String)}
    (done : state.removeFiltered type index values = .ok (removed, after)) : after.Recorded := by
  obtain ⟨table, found, rfl, ⟨-, rfl⟩ | ⟨-, rfl⟩⟩ := removeFiltered_cases done
  · exact recorded
  · intro other relation known
    refine sound.related_withChanged recorded found ?_ known
    intro before role records
    apply records.removeLinks
    · intro rule inside
      simp [inside]
    · intro one here other gone
      exact sound.apart role found here (List.mem_filter.1 gone).1

theorem leads (leads : state.Leads after) : after.Recorded := by
  induction leads with
  | refl => exact recorded
  | addRule before done ih => exact ih.addRule (sound.leads before) done
  | removeRule before done ih => exact ih.removeRule (sound.leads before) done
  | removeFiltered before done ih => exact ih.removeFiltered (sound.leads before) done

end Recorded
variable [Regex.Engine]

/-- What holds of the states of reachable enforcers: they are sound, their links are in the order of the
rules, and what is kept of the model is what it compiles to. -/
structure Orderly (state : State) : Prop where
  sound : state.Sound
  recorded : state.Recorded
  compiles : CompiledModel.compile state.compiled.model = .ok state.compiled

theorem orderly_ofText {text : String} {model : Model} {compiled : CompiledModel}
    (read : Model.ofText text = .ok model) (compiles : CompiledModel.compile model = .ok compiled) :
    (ofModel compiled).Orderly :=
  ⟨sound_ofText read compiles, recorded_ofModel compiled, CompiledModel.compile_compiled compiles⟩

namespace Orderly
variable {state after : State} (orderly : state.Orderly)
include orderly

theorem leads (leads : state.Leads after) : after.Orderly :=
  ⟨orderly.sound.leads leads, orderly.recorded.leads orderly.sound leads, leads.compiles orderly.compiles⟩

theorem withoutRules : (ofModel state.compiled).Orderly :=
  ⟨sound_ofModel orderly.sound.keyed, recorded_ofModel _, orderly.compiles⟩

end Orderly
end State

namespace Enforcer
variable [Regex.Engine] {enforcer after : Enforcer}

theorem orderly_next (orderly : enforcer.state.Orderly) (next : enforcer.Next after) :
    after.state.Orderly := by
  cases next with
  | changed leads => exact orderly.leads leads
  | reloaded leads => exact orderly.withoutRules.leads leads
  | replaced read compiles leads => exact (State.orderly_ofText read compiles).leads leads
  | decided request => exact orderly

theorem orderly_of_reachable (reachable : enforcer.Reachable) : enforcer.state.Orderly :=
  reachable_induction (motive := fun enforcer => enforcer.state.Orderly)
    (fun _ read compiles => State.orderly_ofText read compiles) orderly_next reachable

end Enforcer
end AccessControl
