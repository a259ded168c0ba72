import AccessControl.Proofs.Enforcer.Removals
/-!
What is revoked with a subject. In a model with roles that hold everywhere, a request is allowed just when a
chain of links leads from its subject to one that holds the permission. When a user or a role is taken away,
its permissions go and so do its links, those to its roles or those of its members. What can still be
granted is what was granted along a chain without any of these links, by another holder; cycles of links
make no difference to this. Whoever had no chain to the one that goes is decided as before, by the same rule.
-/
namespace AccessControl

namespace Enforcer

/-- A rule links a member to a role that it has everywhere. -/
def Links (enforcer : Enforcer) (member role : String) : Prop := [member, role] ∈ enforcer.get "g"

/-- A holder of the permission other than a name is at the end of a chain of links from the subject, all
of which stay when the name goes. -/
def GrantsWithout (enforcer : Enforcer) (name : String) (stays : String → String → Prop)
    (subject object action : String) : Prop :=
  ∃ holder, holder ≠ name ∧ [holder, object, action] ∈ enforcer.get "p" ∧
    Relation.ReflTransGen (fun member role => enforcer.Links member role ∧ stays member role) subject holder

variable {enforcer after : Enforcer} {name : String} {stays : String → String → Prop}

/-- Chains that do not come by a name use no link from it and none to it. -/
theorem chain_of_not_reached {links : String → String → Prop}
    (stay : ∀ member role, ¬stays member role → member = name ∨ role = name) {subject holder : String}
    (apart : ¬Relation.ReflTransGen links subject name) (chain : Relation.ReflTransGen links subject holder) :
    Relation.ReflTransGen (fun member role => links member role ∧ stays member role) subject holder := by
  induction chain with
  | refl => exact .refl
  | @tail member role before link ih =>
    refine ih.tail ⟨link, ?_⟩
    by_contra gone
    rcases stay member role gone with rfl | rfl
    · exact apart before
    · exact apart (before.tail link)

/-- Without the links from a name and without its permissions nothing is granted to it. -/
theorem not_grantsWithout_self (enforcer : Enforcer) (name object action : String) :
    ¬enforcer.GrantsWithout name (fun member _ => member ≠ name) name object action := by
  rintro ⟨holder, other, -, chain⟩
  rcases Relation.ReflTransGen.cases_head chain with rfl | ⟨_, ⟨-, stays⟩, -⟩
  · exact other rfl
  · exact stays rfl

variable [Regex.Engine]

/-- A change takes away one name and the links that do not stay, and with them nothing but what was granted
by that name or along these links. Whoever had no chain of links to the name is decided as before. -/
def Revokes (enforcer : Enforcer) (changed : Except Error (Bool × Enforcer)) (name : String)
    (stays : String → String → Prop) : Prop :=
  ∃ answer after, changed = .ok (answer, after) ∧ ∀ subject object action : String,
    (∃ verdict, after.enforce [subject, object, action] = .ok verdict ∧
      (verdict.allowed = true ↔ enforcer.GrantsWithout name stays subject object action)) ∧
    (¬Relation.ReflTransGen enforcer.Links subject name →
      after.enforce [subject, object, action] = enforcer.enforce [subject, object, action])

section
variable (orderly : enforcer.state.Orderly) (roles : enforcer.model.OfRoles)
include orderly roles

/-- The relation reaches a role just when a chain of links leads there. -/
theorem exists_reaches_iff : ∃ relation, enforcer.state.roles.find? "g" = some relation ∧
    ∀ subject holder, relation.reaches subject holder none = true ↔
      Relation.ReflTransGen enforcer.Links subject holder := by
  obtain ⟨relation, known⟩ := orderly.sound.exists_relation roles.role
  refine ⟨relation, known, ?_⟩
  have shaped : ∀ fields ∈ enforcer.get "g", fields.length = RoleShape.global.arity :=
    fun fields inside => (orderly.sound.grouping_rule roles.role inside).1
  have direct : (fun member role => role ∈ relation.rolesOf member none) = enforcer.Links := by
    funext member role
    have followed := orderly.sound.links "g" relation known member role defaultDomain
    have linked := followed.trans (exists_linkOf?_iff shaped member role defaultDomain)
    exact propext (linked.trans (and_iff_right rfl))
  intro subject holder
  rw [RoleRelation.reaches_iff, RoleRelation.Path, direct]

theorem exists_verdict_of_links (allows : enforcer.model.AllowsBySome) (subject object action : String) :
    ∃ verdict, enforcer.state.decision [subject, object, action] = .ok verdict ∧
      (verdict.allowed = true ↔ ∃ holder, [holder, object, action] ∈ enforcer.get "p" ∧
        Relation.ReflTransGen enforcer.Links subject holder) := by
  obtain ⟨verdict, decided, allowed⟩ := exists_verdict_ofRoles orderly roles allows subject object action
  obtain ⟨relation, known, chain⟩ := exists_reaches_iff orderly roles
  refine ⟨verdict, decided, allowed.trans (exists_congr fun holder => ?_)⟩
  rw [implicitPermissions_eq orderly.sound, List.mem_filter, ← chain]
  simp [grants, attains_eq roles.role known]

end

/-- What a permission comes to, as the links of the subject are. -/
theorem eval_permission (orderly : enforcer.state.Orderly) (roles : enforcer.model.OfRoles)
    {relation : RoleRelation} (known : enforcer.state.roles.find? "g" = some relation)
    {rule : List String} (inside : rule ∈ enforcer.get "p") (subject object action : String) :
    ∃ holder object' action', rule = [holder, object', action'] ∧
      enforcer.state.compiled.matcher.eval ⟨[subject, object, action], rule, enforcer.state.roles⟩ =
        .ok (relation.reaches subject holder none && object == object' && action == action') := by
  obtain ⟨holder, object', action', rfl⟩ :=
    List.length_eq_three.1 (orderly.sound.policy_rule roles.policy inside).1
  have compiles := (CompiledModel.compile_eq_ok.1 orderly.compiles).2.1
  exact ⟨holder, object', action', rfl,
    Matcher.eval_ofRoles orderly.sound.keyed compiles known roles _ _ _ _ _ _⟩

section
variable (settled : enforcer.Settled) (settled' : after.Settled) (model : after.model = enforcer.model)
  (roles : enforcer.model.OfRoles)
include settled settled' model roles

/-- A subject is decided as before when it has its chains of links as before and no chain to the holders of
the permissions that have gone. -/
theorem enforce_eq_of_chains {keep : List String → Bool} {subject : String}
    (permissions : after.get "p" = (enforcer.get "p").filter keep)
    (chains : ∀ holder, Relation.ReflTransGen after.Links subject holder ↔
      Relation.ReflTransGen enforcer.Links subject holder)
    (apart : ∀ holder object action, keep [holder, object, action] = false →
      ¬Relation.ReflTransGen enforcer.Links subject holder) (object action : String) :
    after.enforce [subject, object, action] = enforcer.enforce [subject, object, action] := by
  have compiled := settled'.compiled_eq settled model
  obtain ⟨relation, known, reached⟩ := exists_reaches_iff settled.orderly roles
  obtain ⟨relation', known', reached'⟩ := exists_reaches_iff settled'.orderly (model ▸ roles)
  have alike : ∀ holder, relation'.reaches subject holder none = relation.reaches subject holder none := by
    intro holder
    rw [Bool.eq_iff_iff, reached, reached', chains]
  have type : enforcer.state.compiled.matcher.type = "p" :=
    Matcher.type_ofRoles settled.orderly.sound.keyed
      (CompiledModel.compile_eq_ok.1 settled.orderly.compiles).2.1 roles
  have outcomes : ∀ rule ∈ after.get "p", after.state.outcome [subject, object, action] rule =
      enforcer.state.outcome [subject, object, action] rule := by
    intro rule inside
    have inside' : rule ∈ enforcer.get "p" := (List.mem_filter.1 (permissions ▸ inside)).1
    obtain ⟨holder, object', action', rfl, evaluated⟩ :=
      eval_permission settled.orderly roles known inside' subject object action
    obtain ⟨_, _, _, same, evaluated'⟩ :=
      eval_permission settled'.orderly (model ▸ roles) known' inside subject object action
    cases same
    unfold State.outcome State.statedEffect
    rw [evaluated, evaluated', alike, compiled]
  have skipped : ∀ rule ∈ enforcer.get "p", keep rule = false →
      enforcer.state.outcome [subject, object, action] rule = .skipped := by
    intro rule inside gone
    obtain ⟨holder, object', action', rfl, evaluated⟩ :=
      eval_permission settled.orderly roles known inside subject object action
    have unreached : relation.reaches subject holder none = false := by
      rw [Bool.eq_false_iff, ne_eq, reached]
      exact apart holder object' action' gone
    unfold State.outcome
    rw [evaluated, unreached, Bool.false_and, Bool.false_and]
  have scanned (combinator : Combinator) :
      Tally.scan (after.state.outcome [subject, object, action]) combinator {} after.state.deciding =
        Tally.scan (enforcer.state.outcome [subject, object, action]) combinator {}
          enforcer.state.deciding := by
    rw [State.deciding, State.deciding, compiled, type]
    calc Tally.scan (after.state.outcome _) combinator {} (after.get "p")
      _ = Tally.scan (enforcer.state.outcome _) combinator {} (after.get "p") :=
        Tally.scan_congr outcomes _
      _ = Tally.scan (enforcer.state.outcome _) combinator {} ((enforcer.get "p").filter keep) := by
        rw [permissions]
      _ = Tally.scan (enforcer.state.outcome _) combinator {} (enforcer.get "p") :=
        (Tally.scan_filter skipped _).symm
  rw [settled.ready.enforce_eq, settled'.ready.enforce_eq]
  unfold State.decision
  rw [scanned, State.verdictOf_congr compiled, compiled]

end

/-- What a change revokes is told by the rules that it takes away: the permissions of a name, and links from
it or to it. -/
theorem revokes_of_loses (reachable : enforcer.Reachable) (roles : enforcer.model.OfRoles)
    (allows : enforcer.model.AllowsBySome) {changed : Except Error (Bool × Enforcer)}
    {gone : String → List String → Bool} (loses : enforcer.Loses changed gone) (operation : Operation)
    (performed : enforcer.perform operation = enforcer.after changed)
    (holders : ∀ holder rest, gone "p" (holder :: rest) = (holder == name))
    (links : ∀ member role, gone "g" [member, role] = true ↔ ¬stays member role)
    (stay : ∀ member role, ¬stays member role → member = name ∨ role = name) :
    enforcer.Revokes changed name stays := by
  obtain ⟨answer, after, done, model, rules⟩ := loses
  have same : enforcer.run [operation] = after := by
    rw [done] at performed
    exact performed
  have settled := settled_of_reachable reachable
  have settled' := settled_of_reachable (same ▸ reachable.run [operation])
  have linked : after.Links = fun member role => enforcer.Links member role ∧ stays member role := by
    funext member role
    unfold Links
    rw [rules, List.mem_filter, Bool.not_eq_true', Bool.eq_false_iff, ne_eq, links, not_not]
  refine ⟨answer, after, done, ?_⟩
  intro subject object action
  constructor
  · obtain ⟨verdict, decided, allowed⟩ := exists_verdict_of_links settled'.orderly (model ▸ roles)
      (model ▸ allows) subject object action
    rw [settled'.ready.enforce_eq]
    refine ⟨verdict, decided, allowed.trans (exists_congr fun holder => ?_)⟩
    rw [linked, rules, List.mem_filter, holders, Bool.not_eq_true', beq_eq_false_iff_ne]
    tauto
  · intro apart
    apply enforce_eq_of_chains settled settled' model roles (rules "p")
    · intro holder
      rw [linked]
      constructor
      · exact Relation.ReflTransGen.mono (fun _ _ => And.left) subject holder
      · exact chain_of_not_reached stay apart
    · intro holder object' action' lost
      rw [holders, Bool.not_eq_false', beq_iff_eq] at lost
      exact lost ▸ apart

/-- With a user go its permissions and the links from it, with a role its permissions and the links to it;
and nothing else is revoked. A user that has gone may do nothing any more. -/
theorem deletion_revokes (reachable : enforcer.Reachable) (roles : enforcer.model.OfRoles)
    (allows : enforcer.model.AllowsBySome) {name : String} (named : name ≠ "") :
    enforcer.Revokes (enforcer.deleteUser name) name (fun member _ => member ≠ name) ∧
    enforcer.Revokes (enforcer.deleteRole name) name (fun _ role => role ≠ name) ∧
    ∃ answer after, enforcer.deleteUser name = .ok (answer, after) ∧ ∀ object action : String,
      ∃ verdict, after.enforce [name, object, action] = .ok verdict ∧ verdict.allowed = false := by
  have sound := sound_of_reachable reachable
  have policy : enforcer.model.policies.has "p" = true := by rw [Catalogue.has, roles.policy]; rfl
  have role : enforcer.model.roles.has "g" = true := by rw [Catalogue.has, roles.role]; rfl
  have user : enforcer.Revokes (enforcer.deleteUser name) name (fun member _ => member ≠ name) := by
    have loses := loses_names sound role policy (.user name) named
    apply revokes_of_loses reachable roles allows loses (.deleteUser name) rfl
    · simp [Dismissal.names, Dismissal.picks]
    · simp [Dismissal.names, Dismissal.picks]
    · exact fun _ _ gone => .inl (not_not.1 gone)
  have deleted : enforcer.Revokes (enforcer.deleteRole name) name (fun _ role => role ≠ name) := by
    have loses := loses_names sound role policy (.role name) named
    apply revokes_of_loses reachable roles allows loses (.deleteRole name) rfl
    · simp [Dismissal.names, Dismissal.picks]
    · simp [Dismissal.names, Dismissal.picks]
    · exact fun _ _ gone => .inr (not_not.1 gone)
  refine ⟨user, deleted, ?_⟩
  obtain ⟨answer, after, done, decided⟩ := user
  refine ⟨answer, after, done, ?_⟩
  intro object action
  obtain ⟨verdict, enforced, allowed⟩ := (decided name object action).1
  refine ⟨verdict, enforced, ?_⟩
  rw [Bool.eq_false_iff, ne_eq, allowed]
  exact not_grantsWithout_self enforcer name object action

end Enforcer

namespace Office

/-- The enforcer after two roles have been linked in a cycle, with a user below the one of them. -/
def assigned : Enforcer :=
  Enforcer.run { enforcer with storage? := none }
    [.add "p" ["staff", "file", "read"], .add "p" ["owner", "file", "write"], .addRole "alice" "staff" none,
      .addRole "staff" "owner" none, .addRole "owner" "staff" none]

theorem reachable_assigned : assigned.Reachable := .intro ofText_text ofModel_model none _

end Office

namespace Enforcer
open Office

/-- One of the roles of a cycle goes. -/
theorem deletion_revokes_of_cycle :
    assigned.Revokes (assigned.deleteUser "staff") "staff" (fun member _ => member ≠ "staff") ∧
    assigned.Revokes (assigned.deleteRole "staff") "staff" (fun _ role => role ≠ "staff") ∧
    ∃ answer after, assigned.deleteUser "staff" = .ok (answer, after) ∧ ∀ object action : String,
      ∃ verdict, after.enforce ["staff", object, action] = .ok verdict ∧ verdict.allowed = false := by
  apply deletion_revokes reachable_assigned
  · with_unfolding_all exact ofRoles_model
  · with_unfolding_all rfl
  · decide

end Enforcer
end AccessControl
