import AccessControl.Proofs.Enforcer.Effects
import AccessControl.Proofs.Enforcer.Isolation
/-!
Permissions that are listed and permissions that are enforced. The list of a user's permissions is made
from all roles of the user at once, a decision from one test for each rule that ends as soon as a path to
the role is found. Both come to the same: what is listed are the rules whose subject the user is or has
for a role, and in the customary models a request is allowed just when such a rule is listed for it.
-/
namespace AccessControl

namespace Enforcer

/-- Whether a name is a user's own or that of one of its roles. Without a role relation users have no
roles. -/
def attains (enforcer : Enforcer) (user subject : String) (domain? : Option String) : Bool :=
  if enforcer.model.roles.has "g" then enforcer.relation.reaches user subject domain?
  else subject == user

/-- Whether a permission is granted to a user or to one of its roles, and in the domain if one is asked
for and permissions have a field for it. -/
def grants (enforcer : Enforcer) (user : String) (domain? : Option String) (permission : List String) :
    Bool :=
  permission.head?.any (enforcer.attains user · domain?) && domain?.all fun domain =>
    let names := (enforcer.model.policies.find? "p").getD []
    !names.contains "dom" || (names.zip permission).lookup "dom" == some domain

variable {enforcer : Enforcer}

theorem contains_subjects (enforcer : Enforcer) (user subject : String) (domain? : Option String)
    (relations : enforcer.state.roles.names = enforcer.model.roles.names) :
    (user :: enforcer.implicitRoles user domain?).contains subject =
      enforcer.attains user subject domain? := by
  unfold attains implicitRoles
  by_cases declared : enforcer.model.roles.has "g" = true
  · rw [if_pos declared, RoleRelation.reaches_eq_contains]
  · have absent : enforcer.state.roles.find? "g" = none := by
      rw [Catalogue.has_iff_mem_names, ← relations, ← Catalogue.has_iff_mem_names, Catalogue.has] at declared
      simpa using declared
    have none : enforcer.relation = .empty := by
      rw [relation, roleType, absent]
      rfl
    rw [if_neg declared, none, RoleRelation.allRolesOf_empty, List.contains_cons]
    exact Bool.or_false _

/-- Where the field of the domain stands where it is declared, it is found by its name. -/
theorem isForDomain_eq {domain? : Option String} {permission names : List String}
    (named : enforcer.model.policies.find? "p" = some names) (long : permission.length = names.length) :
    enforcer.isForDomain domain? permission = domain?.all fun domain =>
      !names.contains "dom" || (names.zip permission).lookup "dom" == some domain := by
  unfold isForDomain
  cases domain? with
  | none => rfl
  | some domain =>
    have indexed : enforcer.state.compiled.model.policyIndex? permissionType domainField =
        names.idxOf? "dom" := Model.policyIndex?_of_find? named "dom"
    rw [Option.all_some, indexed]
    cases placed : names.idxOf? "dom" with
    | none =>
      have absent : "dom" ∉ names := List.idxOf?_eq_none_iff.1 placed
      simp [absent]
    | some index =>
      obtain ⟨value, looked, stands⟩ := Expr.lookup_zip long placed
      have present : "dom" ∈ names := by
        by_contra absent
        rw [List.idxOf?_eq_none_iff.2 absent] at placed
        cases placed
      simp [present, looked, stands]

theorem exists_policy_of_rule (sound : enforcer.state.Sound) {permission : List String}
    (inside : permission ∈ enforcer.get "p") : ∃ names, enforcer.model.policies.find? "p" = some names := by
  obtain ⟨table, found, -⟩ := sound.exists_table inside
  have known : "p" ∈ enforcer.state.store.types := (Catalogue.mem_names_iff _ _).2 ⟨table, found⟩
  rcases sound.mem_types.1 known with policy | role
  · exact (Catalogue.mem_names_iff _ _).1 policy
  · exact absurd (sound.keyed.role "p" role) (by decide)

/-- The permissions that are listed for a user are those that are granted to it, in the order of the
rules. -/
theorem implicitPermissions_eq (sound : enforcer.state.Sound) (user : String) (domain? : Option String) :
    enforcer.implicitPermissions user domain? =
      (enforcer.get "p").filter (enforcer.grants user domain?) := by
  unfold implicitPermissions
  apply List.filter_congr
  intro permission inside
  have subjects : (fun subject => (user :: enforcer.implicitRoles user domain?).contains subject) =
      (enforcer.attains user · domain?) := by
    funext subject
    exact contains_subjects enforcer user subject domain? sound.relations
  obtain ⟨names, named⟩ := exists_policy_of_rule sound inside
  unfold grants
  rw [subjects, isForDomain_eq named (sound.policy_rule named inside).1, named]
  rfl

end Enforcer

namespace Model

/-- A request is allowed if some rule `p` allows it, and otherwise it is denied. -/
def AllowsBySome (model : Model) : Prop :=
  EffectRule.ofText? "p" model.effect = EffectRule.ofText? "p" "some(where (p.eft == allow))"

end Model

namespace State
variable {state : State} {request : List String}

/-- The rules of a type that declares no effect allow. -/
theorem statedEffect_of_not_mem {names : List String}
    (named : state.compiled.model.policies.find? state.compiled.matcher.type = some names)
    (absent : Model.effectField ∉ names) (rule : List String) : state.statedEffect rule = .ok .allow := by
  unfold statedEffect
  simp only [named, Option.getD_some, Expr.lookup_zip_of_not_mem absent]

variable [Regex.Engine]

/-- Where some rule that allows is enough and none fails or denies, a request is allowed just when a rule
matches it. -/
theorem exists_verdict (effect : state.compiled.effect = ⟨.allowOverride, false⟩)
    (long : request.length = state.compiled.model.request.length)
    (stated : ∀ rule ∈ state.deciding, state.statedEffect rule = .ok .allow)
    (answered : ∀ rule ∈ state.deciding,
      ∃ answer, state.compiled.matcher.eval ⟨request, rule, state.roles⟩ = .ok answer) :
    ∃ verdict, state.decision request = .ok verdict ∧ (verdict.allowed = true ↔
      ∃ rule ∈ state.deciding,
        state.compiled.matcher.eval ⟨request, rule, state.roles⟩ = .ok true) := by
  have matched : ∀ rule ∈ state.deciding, state.outcome request rule = .matched .allow ↔
      state.compiled.matcher.eval ⟨request, rule, state.roles⟩ = .ok true := by
    intro rule inside
    obtain ⟨answer, evaluated⟩ := answered rule inside
    unfold outcome
    rw [evaluated, stated rule inside]
    cases answer with
    | false => exact iff_of_false nofun nofun
    | true => exact iff_of_true rfl rfl
  have succeeds : ∀ rule ∈ state.deciding, ∀ error, state.outcome request rule ≠ .failed error := by
    intro rule inside
    obtain ⟨answer, evaluated⟩ := answered rule inside
    exact outcome_ne_failed evaluated (stated rule inside)
  obtain ⟨verdict, ruling⟩ := exists_ruling_ok long succeeds
  refine ⟨verdict, decision_of_ruling ruling, ?_⟩
  have settled := settle?_of_ruling (by rw [effect]; exact nofun) ruling
  rw [effect] at settled
  have present : state.isPresent request .allow = verdict.allowed := by
    simpa [EffectRule.settle?] using settled
  rw [← present, isPresent_eq_true]
  exact exists_congr fun rule => and_congr_right (matched rule)

theorem effect_eq (compiles : CompiledModel.compile state.compiled.model = .ok state.compiled)
    (type : state.compiled.matcher.type = "p") (some : state.compiled.model.AllowsBySome) :
    state.compiled.effect = ⟨.allowOverride, false⟩ := by
  have read := (CompiledModel.compile_eq_ok.1 compiles).2.2
  rw [type, some] at read
  have known : EffectRule.ofText? "p" "some(where (p.eft == allow))" = .some ⟨.allowOverride, false⟩ := by
    decide +kernel
  exact Option.some.inj (read.symm.trans known)

end State

namespace Enforcer
variable {enforcer : Enforcer}

theorem attains_eq {shape : RoleShape} (declared : enforcer.model.roles.find? "g" = some shape)
    {relation : RoleRelation} (known : enforcer.state.roles.find? "g" = some relation)
    (user subject : String) (domain? : Option String) :
    enforcer.attains user subject domain? = relation.reaches user subject domain? := by
  have same : enforcer.relation = relation := by
    rw [Enforcer.relation, roleType, known]
    rfl
  rw [attains, Catalogue.has, declared, Option.isSome_some, if_pos rfl, same]

section
variable [Regex.Engine]

section
variable (orderly : enforcer.state.Orderly)
include orderly

/-- Where the matcher finds the granted permissions for what is asked, a request is allowed if one of them
is listed. -/
theorem exists_verdict_of_granted (type : enforcer.state.compiled.matcher.type = "p") {names : List String}
    (named : enforcer.model.policies.find? "p" = some names) (absent : Model.effectField ∉ names)
    (allows : enforcer.model.AllowsBySome) {subject : String} {asked : List String}
    {domain? : Option String} (long : asked.length + 1 = enforcer.model.request.length)
    (answered : ∀ rule ∈ enforcer.get "p", ∃ answer,
      enforcer.state.compiled.matcher.eval ⟨subject :: asked, rule, enforcer.state.roles⟩ = .ok answer ∧
        (answer = true ↔ enforcer.grants subject domain? rule = true ∧ rule.tail = asked)) :
    ∃ verdict, enforcer.state.decision (subject :: asked) = .ok verdict ∧ (verdict.allowed = true ↔
      ∃ holder, holder :: asked ∈ enforcer.implicitPermissions subject domain?) := by
  have deciding : enforcer.state.deciding = enforcer.get "p" := by
    rw [State.deciding, type]
    rfl
  have stated := State.statedEffect_of_not_mem (type.symm ▸ named) absent
  have whole : (subject :: asked).length = enforcer.state.compiled.model.request.length := long
  obtain ⟨verdict, decided, allowed⟩ := State.exists_verdict (State.effect_eq orderly.compiles type allows)
    whole (fun rule _ => stated rule) fun rule inside =>
      (answered rule (deciding ▸ inside)).imp fun _ => And.left
  refine ⟨verdict, decided, ?_⟩
  rw [allowed, deciding, implicitPermissions_eq orderly.sound]
  constructor
  · rintro ⟨rule, inside, matched⟩
    obtain ⟨answer, evaluated, means⟩ := answered rule inside
    rw [evaluated, Except.ok.injEq, means] at matched
    obtain ⟨granted, rfl⟩ := matched
    cases rule with
    | nil => cases granted
    | cons holder rest => exact ⟨holder, List.mem_filter.2 ⟨inside, granted⟩⟩
  · rintro ⟨holder, listed⟩
    obtain ⟨inside, granted⟩ := List.mem_filter.1 listed
    obtain ⟨answer, evaluated, means⟩ := answered _ inside
    exact ⟨_, inside, evaluated.trans (congrArg _ (means.2 ⟨granted, rfl⟩))⟩

/-- With roles that hold everywhere. -/
theorem exists_verdict_ofRoles (roles : enforcer.model.OfRoles) (allows : enforcer.model.AllowsBySome)
    (subject object action : String) :
    ∃ verdict, enforcer.state.decision [subject, object, action] = .ok verdict ∧
      (verdict.allowed = true ↔ ∃ holder,
        [holder, object, action] ∈ enforcer.implicitPermissions subject none) := by
  have compiles := (CompiledModel.compile_eq_ok.1 orderly.compiles).2.1
  have type := Matcher.type_ofRoles orderly.sound.keyed compiles roles
  obtain ⟨relation, known⟩ := orderly.sound.exists_relation roles.role
  apply exists_verdict_of_granted orderly type roles.policy (by decide) allows
  · rw [roles.request]
    rfl
  intro rule inside
  obtain ⟨holder, object', action', rfl⟩ :=
    List.length_eq_three.1 (orderly.sound.policy_rule roles.policy inside).1
  refine ⟨_, Matcher.eval_ofRoles orderly.sound.keyed compiles known roles _ _ _ _ _ _, ?_⟩
  have granted : enforcer.grants subject none [holder, object', action'] =
      relation.reaches subject holder none := by simp [grants, attains_eq roles.role known]
  rw [granted, Bool.and_eq_true, Bool.and_eq_true, beq_iff_eq, beq_iff_eq]
  constructor
  · rintro ⟨⟨reached, rfl⟩, rfl⟩
    exact ⟨reached, rfl⟩
  · rintro ⟨reached, same⟩
    cases same
    exact ⟨⟨reached, rfl⟩, rfl⟩

/-- With roles of domains. -/
theorem exists_verdict_ofDomains (domains : enforcer.model.OfDomains [])
    (allows : enforcer.model.AllowsBySome) (subject domain object action : String) :
    ∃ verdict, enforcer.state.decision [subject, domain, object, action] = .ok verdict ∧
      (verdict.allowed = true ↔ ∃ holder,
        [holder, domain, object, action] ∈ enforcer.implicitPermissions subject (some domain)) := by
  have compiles := (CompiledModel.compile_eq_ok.1 orderly.compiles).2.1
  have type := Matcher.type_ofDomains orderly.sound.keyed compiles domains
  obtain ⟨relation, known⟩ := orderly.sound.exists_relation domains.role
  apply exists_verdict_of_granted orderly type domains.policy (by decide) allows
  · rw [domains.request]
    rfl
  intro rule inside
  obtain ⟨holder, domain', object', action', rest, rfl, short⟩ := orderly.exists_fields domains inside
  cases List.eq_nil_of_length_eq_zero short
  refine ⟨_, orderly.eval_eq domains known rfl _ _ _ _ _ _ _ _, ?_⟩
  have granted : enforcer.grants subject (some domain) [holder, domain', object', action'] =
      (relation.reaches subject holder (some domain) && domain' == domain) := by
    have placed : List.lookup "dom" [("sub", holder), ("dom", domain'), ("obj", object'), ("act", action')] =
        some domain' := rfl
    simp [grants, attains_eq domains.role known, domains.policy, placed]
  rw [granted, Bool.and_eq_true, Bool.and_eq_true, Bool.and_eq_true, Bool.and_eq_true, beq_iff_eq,
    beq_iff_eq, beq_iff_eq, beq_iff_eq]
  constructor
  · rintro ⟨⟨⟨reached, rfl⟩, rfl⟩, rfl⟩
    exact ⟨⟨reached, rfl⟩, rfl⟩
  · rintro ⟨⟨reached, -⟩, same⟩
    cases same
    exact ⟨⟨⟨reached, rfl⟩, rfl⟩, rfl⟩

end

/-- Whatever operations have led to an enforcer, the permissions that it lists for a user are the rules
that are granted to the user, in their order; and in the customary models a request is allowed just when
a permission for what it asks is listed. -/
theorem implicitPermissions_enforced (reachable : enforcer.Reachable) :
    (∀ (user : String) (domain? : Option String), enforcer.implicitPermissions user domain? =
      (enforcer.get "p").filter (enforcer.grants user domain?)) ∧
    (enforcer.model.OfRoles → enforcer.model.AllowsBySome → ∀ subject object action : String,
      ∃ verdict, enforcer.enforce [subject, object, action] = .ok verdict ∧
        (verdict.allowed = true ↔ ∃ holder,
          [holder, object, action] ∈ enforcer.implicitPermissions subject none)) ∧
    (enforcer.model.OfDomains [] → enforcer.model.AllowsBySome →
      ∀ subject domain object action : String,
        ∃ verdict, enforcer.enforce [subject, domain, object, action] = .ok verdict ∧
          (verdict.allowed = true ↔ ∃ holder,
            [holder, domain, object, action] ∈ enforcer.implicitPermissions subject (some domain))) := by
  have settled := settled_of_reachable reachable
  refine ⟨implicitPermissions_eq settled.orderly.sound, ?_, ?_⟩
  · intro roles allows subject object action
    rw [settled.ready.enforce_eq]
    exact exists_verdict_ofRoles settled.orderly roles allows subject object action
  · intro domains allows subject domain object action
    rw [settled.ready.enforce_eq]
    exact exists_verdict_ofDomains settled.orderly domains allows subject domain object action

end

/-- Roles that are linked in a cycle, one of them with the empty name, and a branch with the empty name. -/
theorem implicitPermissions_enforced_of_cycles :
    (∃ verdict, (run { Office.enforcer with storage? := none }
        [.add "p" ["", "file", "read"], .addRole "alice" "staff" none, .addRole "staff" "" none,
          .addRole "" "alice" none]).enforce ["alice", "file", "read"] = .ok verdict ∧
      (verdict.allowed = true ↔ ∃ holder, [holder, "file", "read"] ∈
        (run { Office.enforcer with storage? := none }
          [.add "p" ["", "file", "read"], .addRole "alice" "staff" none, .addRole "staff" "" none,
            .addRole "" "alice" none]).implicitPermissions "alice" none)) ∧
    ∃ verdict, (run { Branches.enforcer with storage? := none }
        [.add "p" ["staff", "", "file", "read"],
          .addRole "alice" "staff" (some "one")]).enforce ["alice", "", "file", "read"] = .ok verdict ∧
      (verdict.allowed = true ↔ ∃ holder, [holder, "", "file", "read"] ∈
        (run { Branches.enforcer with storage? := none }
          [.add "p" ["staff", "", "file", "read"],
            .addRole "alice" "staff" (some "one")]).implicitPermissions "alice" (some "")) := by
  constructor
  · apply (implicitPermissions_enforced (.intro Office.ofText_text Office.ofModel_model none _)).2.1
    · with_unfolding_all exact Office.ofRoles_model
    · with_unfolding_all rfl
  · apply (implicitPermissions_enforced (.intro Branches.ofText_text Branches.ofModel_model none _)).2.2
    · with_unfolding_all exact Branches.ofDomains_model
    · with_unfolding_all rfl

end Enforcer
end AccessControl
