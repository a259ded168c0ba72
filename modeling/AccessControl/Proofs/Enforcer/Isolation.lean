import AccessControl.Proofs.Enforcer.Rebuilding
import AccessControl.Proofs.Model.Customary
import AccessControl.Proofs.Roles.Reachability
/-!
Isolation of domains. In a model with roles of domains a request is decided by the rules of its domain
alone: two enforcers whose permissions and links in the domain are the same give the same verdict there,
whatever the rules of other domains are. Operations that add and remove rules of other domains only do
therefore not show in the domain. No name of a domain is special, not even the empty one.
-/
namespace AccessControl

/-- Whether a rule is of a domain, which is the second field of a permission and the third of a link. -/
def isOfDomain (domain type : String) (fields : List String) : Bool :=
  (type == "p" && fields[1]? == some domain) || (type == "g" && fields[2]? == some domain)

theorem isOfDomain_permission (domain : String) :
    isOfDomain domain "p" = fun fields => fields[1]? == some domain := by
  funext fields
  simp [isOfDomain]

theorem isOfDomain_link (domain : String) :
    isOfDomain domain "g" = fun fields => fields[2]? == some domain := by
  funext fields
  simp [isOfDomain]

/-- None of the rules that a filter selects is of a domain. -/
def Enforcer.SparesSelected (enforcer : Enforcer) (domain type : String) (index : Word)
    (values : List String) : Prop :=
  ∀ fields ∈ enforcer.filtered type index values, isOfDomain domain type fields = false

namespace State
variable {state middle after : State} {domain : String}

/-- A state and one that comes of it without a change of the rules of a domain. -/
structure KeepsDomain (domain : String) (state after : State) : Prop where
  compiled : after.compiled = state.compiled
  rules : ∀ type, (after.store.rules type).filter (isOfDomain domain type) =
    (state.store.rules type).filter (isOfDomain domain type)

namespace KeepsDomain

theorem refl : KeepsDomain domain state state := ⟨rfl, fun _ => rfl⟩

theorem trans (first : KeepsDomain domain state middle) (second : KeepsDomain domain middle after) :
    KeepsDomain domain state after :=
  ⟨second.compiled.trans first.compiled, fun type => (second.rules type).trans (first.rules type)⟩

/-- Only the rules of the changed type have to be looked at. -/
theorem withChanged {type : String} {table : RuleTable}
    (found : state.store.tables.find? type = some table) {change : RuleTable → RuleTable}
    {relink : RoleRelation → RoleRelation}
    (same : (change table).rules.filter (isOfDomain domain type) =
      table.rules.filter (isOfDomain domain type)) :
    KeepsDomain domain state (state.withChanged type change relink) := by
  refine ⟨rfl, ?_⟩
  intro other
  rw [rules_withChanged found]
  by_cases here : other = type
  · rw [if_pos here, here, Store.rules_of_find? found]
    exact same
  · rw [if_neg here]

theorem addRule {type : String} {fields : List String} {added : Bool}
    (foreign : isOfDomain domain type fields = false)
    (done : state.addRule type fields = .ok (added, after)) : KeepsDomain domain state after := by
  obtain ⟨table, found, -, ⟨-, -, rfl⟩ | ⟨-, -, rfl⟩⟩ := addRule_cases done
  · exact refl
  · apply withChanged found
    simp [RuleTable.insert, foreign]

theorem addRules {type : String} {rules : List (List String)} {added : Bool}
    (foreign : ∀ fields ∈ rules, isOfDomain domain type fields = false)
    (done : state.addRules type rules = .ok (added, after)) : KeepsDomain domain state after := by
  induction rules generalizing state added with
  | nil =>
    cases done
    exact refl
  | cons fields rest ih =>
    unfold State.addRules at done
    obtain ⟨⟨first, next⟩, one, later⟩ := Result.bind_eq_ok.1 done
    obtain ⟨⟨others, last⟩, many, same⟩ := Result.bind_eq_ok.1 later
    cases same
    rw [List.forall_mem_cons] at foreign
    exact (addRule foreign.1 one).trans (ih foreign.2 many)

theorem removeRule {type : String} {fields : List String} {removed : Bool}
    (foreign : isOfDomain domain type fields = false)
    (done : state.removeRule type fields = .ok (removed, after)) : KeepsDomain domain state after := by
  obtain ⟨table, found, ⟨-, -, rfl⟩ | ⟨-, -, rfl⟩⟩ := removeRule_cases done
  · exact refl
  · apply withChanged found
    change (table.rules.filter (· != fields)).filter _ = _
    rw [List.filter_filter]
    apply List.filter_congr
    intro other _
    by_cases same : other = fields
    · simp [same, foreign]
    · simp [same]

theorem removeFiltered {type : String} {index : Word} {values : List String}
    {removed : List (List String)}
    (foreign : ∀ fields ∈ state.store.filtered type index values,
      isOfDomain domain type fields = false)
    (done : state.removeFiltered type index values = .ok (removed, after)) :
    KeepsDomain domain state after := by
  obtain ⟨table, found, -, ⟨-, rfl⟩ | ⟨-, rfl⟩⟩ := removeFiltered_cases done
  · exact refl
  · rw [Store.filtered, Store.rules_of_find? found] at foreign
    apply withChanged found
    change (table.rules.filter (!fieldsMatch · index values)).filter _ = _
    rw [List.filter_filter]
    apply List.filter_congr
    intro fields inside
    by_cases selected : fieldsMatch fields index values = true
    · simp [foreign fields (List.mem_filter.2 ⟨inside, selected⟩)]
    · simp [selected]

/-- The links of a name go first, which leaves the permissions as they are. -/
theorem deleteSubject {name : String} {index : Word} {enforcer result : Enforcer} {deleted : Bool}
    (links : enforcer.SparesSelected domain roleType index [name])
    (permissions : enforcer.SparesSelected domain permissionType 0 [name])
    (done : enforcer.deleteSubject name index = .ok (deleted, result)) :
    KeepsDomain domain enforcer.state result.state := by
  obtain ⟨last, changed, rfl⟩ := Enforcer.exists_of_update done
  obtain ⟨⟨gone, middle⟩, unlinked, rest⟩ := Result.bind_eq_ok.1 changed
  obtain ⟨⟨lost, last⟩, removed, same⟩ := Result.bind_eq_ok.1 rest
  cases same
  unfold State.removeLinksOf at unlinked
  split at unlinked
  · refine (removeFiltered links unlinked).trans (removeFiltered ?_ removed)
    have kept : middle.store.rules permissionType = enforcer.state.store.rules permissionType := by
      obtain ⟨table, found, -, ⟨-, rfl⟩ | ⟨-, rfl⟩⟩ := removeFiltered_cases unlinked
      · rfl
      · rw [rules_withChanged found, if_neg (by decide)]
    rw [Store.filtered, kept]
    exact permissions
  · cases unlinked
    exact removeFiltered permissions removed

end KeepsDomain

section
variable [Regex.Engine] {one other : State} {more : List String} (orderly : one.Orderly)
  (domains : one.compiled.model.OfDomains more)
include orderly domains

/-- There is a relation of links, which are those of the rules for them. -/
theorem Orderly.exists_relation (domain : String) : ∃ relation, one.roles.find? "g" = some relation ∧
    ∀ member role, role ∈ relation.rolesOf member (some domain) ↔
      [member, role, domain] ∈ one.store.rules "g" := by
  obtain ⟨relation, found⟩ := orderly.sound.exists_relation domains.role
  refine ⟨relation, found, ?_⟩
  intro member role
  rw [orderly.sound.links "g" relation found]
  have shaped : ∀ fields ∈ one.store.rules "g", fields.length = RoleShape.perDomain.arity :=
    fun fields inside => (orderly.sound.grouping_rule domains.role inside).1
  exact exists_linkOf?_iff shaped member role domain

theorem Orderly.deciding_eq : one.deciding = one.store.rules "p" := by
  have compiles := (CompiledModel.compile_eq_ok.1 orderly.compiles).2.1
  rw [deciding, Matcher.type_ofDomains orderly.sound.keyed compiles domains]

/-- A permission has the fields that are declared for it. -/
theorem Orderly.exists_fields {rule : List String} (inside : rule ∈ one.store.rules "p") :
    ∃ role domain object action rest, rule = role :: domain :: object :: action :: rest ∧
      rest.length = more.length := by
  have long := (orderly.sound.policy_rule domains.policy inside).1
  match rule, long with
  | role :: domain :: object :: action :: rest, long =>
    exact ⟨role, domain, object, action, rest, rfl, by simpa using long⟩

/-- What a permission comes to, as the links of the domain are. -/
theorem Orderly.eval_eq {relation : RoleRelation} (known : one.roles.find? "g" = some relation)
    {rest : List String} (long : rest.length = more.length)
    (subject domain object action role domain' object' action' : String) :
    one.compiled.matcher.eval ⟨[subject, domain, object, action],
        role :: domain' :: object' :: action' :: rest, one.roles⟩ =
      .ok (relation.reaches subject role (some domain) && domain == domain' && object == object' &&
        action == action') :=
  Matcher.eval_ofDomains orderly.sound.keyed (CompiledModel.compile_eq_ok.1 orderly.compiles).2.1 known
    domains long subject domain object action role domain' object' action'

/-- A permission of another domain does not match. -/
theorem Orderly.outcome_foreign {subject domain object action : String} {rule : List String}
    (inside : rule ∈ one.store.rules "p") (foreign : isOfDomain domain "p" rule = false) :
    one.outcome [subject, domain, object, action] rule = .skipped := by
  obtain ⟨relation, known, -⟩ := orderly.exists_relation domains domain
  obtain ⟨role, domain', object', action', rest, rfl, long⟩ := orderly.exists_fields domains inside
  have other : (domain == domain') = false := by
    rw [beq_eq_false_iff_ne]
    rintro rfl
    simp [isOfDomain] at foreign
  unfold outcome
  rw [orderly.eval_eq domains known long, other, Bool.and_false, Bool.false_and, Bool.false_and]

variable (orderly' : other.Orderly) (compiled : one.compiled = other.compiled)
include orderly' compiled

/-- Where the links of a domain are the same, permissions come to the same for its requests. -/
theorem Orderly.outcome_congr {domain : String}
    (links : ∀ fields : List String, fields[2]? = some domain →
      (fields ∈ one.store.rules "g" ↔ fields ∈ other.store.rules "g"))
    {subject object action : String} {rule : List String} (inside : rule ∈ one.store.rules "p") :
    one.outcome [subject, domain, object, action] rule =
      other.outcome [subject, domain, object, action] rule := by
  have domains' : other.compiled.model.OfDomains more := compiled ▸ domains
  obtain ⟨relation, known, direct⟩ := orderly.exists_relation domains domain
  obtain ⟨relation', known', direct'⟩ := orderly'.exists_relation domains' domain
  have reached : ∀ name role,
      relation.reaches name role (some domain) = relation'.reaches name role (some domain) := by
    apply RoleRelation.reaches_eq_of_mem_iff
    intro member role
    rw [direct, direct']
    exact links [member, role, domain] rfl
  obtain ⟨role, domain', object', action', rest, rfl, long⟩ := orderly.exists_fields domains inside
  unfold outcome statedEffect
  rw [orderly.eval_eq domains known long, orderly'.eval_eq domains' known' long, reached, compiled]

/-- The verdict on a request depends on the permissions and the links of its domain. -/
theorem Orderly.decision_congr {domain : String}
    (policies : (one.store.rules "p").filter (isOfDomain domain "p") =
      (other.store.rules "p").filter (isOfDomain domain "p"))
    (links : ∀ fields : List String, fields[2]? = some domain →
      (fields ∈ one.store.rules "g" ↔ fields ∈ other.store.rules "g"))
    {request : List String} (asked : request[1]? = some domain) :
    one.decision request = other.decision request := by
  have domains' : other.compiled.model.OfDomains more := compiled ▸ domains
  unfold decision
  by_cases long : request.length = one.compiled.model.request.length
  · have scanned (combinator : Combinator) :
        Tally.scan (one.outcome request) combinator {} one.deciding =
          Tally.scan (other.outcome request) combinator {} other.deciding := by
      rw [domains.request] at long
      match request, long with
      | [subject, _, object, action], _ =>
        cases asked
        calc Tally.scan (one.outcome [subject, domain, object, action]) combinator {} one.deciding
          _ = Tally.scan (one.outcome _) combinator {}
              ((one.store.rules "p").filter (isOfDomain domain "p")) := by
            rw [orderly.deciding_eq domains]
            exact Tally.scan_filter (fun _ => orderly.outcome_foreign domains) _
          _ = Tally.scan (other.outcome _) combinator {}
              ((one.store.rules "p").filter (isOfDomain domain "p")) :=
            Tally.scan_congr (fun _ inside => orderly.outcome_congr domains orderly' compiled links
              (List.mem_filter.1 inside).1) _
          _ = Tally.scan (other.outcome _) combinator {} other.deciding := by
            rw [policies, orderly'.deciding_eq domains']
            exact (Tally.scan_filter (fun _ => orderly'.outcome_foreign domains') _).symm
    rw [if_neg (not_not_intro long), if_neg (not_not_intro (compiled ▸ long)), scanned,
      verdictOf_congr compiled, compiled]
  · rw [if_pos long, if_pos (compiled ▸ long), compiled]

end

end State

/-- The rules that an operation adds and removes are all of other domains. -/
def Operation.Spares (domain : String) (enforcer : Enforcer) : Operation → Prop
  | .add type fields | .remove type fields => isOfDomain domain type fields = false
  | .addMany type rules => ∀ fields ∈ rules, isOfDomain domain type fields = false
  | .removeFiltered type index values => enforcer.SparesSelected domain type index values
  | .addRole user role domain? | .deleteRoleForUser user role domain? =>
    isOfDomain domain roleType (Enforcer.linkFields user role domain?) = false
  | .deleteRoles user domain? =>
    enforcer.SparesSelected domain roleType 0 (Enforcer.linkFields user "" domain?)
  | .addPermission user permission | .deletePermission user permission =>
    isOfDomain domain permissionType (user :: permission) = false
  | .deleteUser user =>
    enforcer.SparesSelected domain roleType 0 [user] ∧
      enforcer.SparesSelected domain permissionType 0 [user]
  | .deleteRole role =>
    enforcer.SparesSelected domain roleType 1 [role] ∧
      enforcer.SparesSelected domain permissionType 0 [role]
  | .decide _ => True
  | .loadModel _ | .loadPolicy _ | .replaceRules _ | .clear => False

namespace Enforcer

/-- Two enforcers of one model that hold the same permissions of a domain, in the same order, and the
same links of it. -/
structure AlikeIn (domain : String) (one other : Enforcer) : Prop where
  model : one.model = other.model
  policies : (one.get "p").filter (·[1]? == some domain) =
    (other.get "p").filter (·[1]? == some domain)
  groupings : ∀ fields : List String, fields[2]? = some domain →
    (fields ∈ one.get "g" ↔ fields ∈ other.get "g")

/-- Operations one after another, each of which spares a domain in the state that it meets. -/
def SparedBy [Regex.Engine] (domain : String) : Enforcer → List Operation → Prop
  | _, [] => True
  | enforcer, operation :: rest =>
    operation.Spares domain enforcer ∧ SparedBy domain (enforcer.perform operation) rest

variable {enforcer one other : Enforcer} {domain : String}

theorem keepsDomain_after {α : Type} {changed : Except Error (α × Enforcer)}
    (step : ∀ answer after, changed = .ok (answer, after) →
      State.KeepsDomain domain enforcer.state after.state) :
    State.KeepsDomain domain enforcer.state (enforcer.after changed).state := by
  cases changed with
  | ok result => exact step result.1 result.2 rfl
  | error _ => exact .refl

theorem keepsDomain_update {α : Type} {change : State → Except Error (α × State)}
    (step : ∀ answer after, change enforcer.state = .ok (answer, after) →
      State.KeepsDomain domain enforcer.state after) :
    State.KeepsDomain domain enforcer.state (enforcer.after (enforcer.update change)).state := by
  apply keepsDomain_after
  intro answer after done
  obtain ⟨state, made, rfl⟩ := exists_of_update done
  exact step answer state made

theorem keepsDomain_add {type : String} {fields : List String}
    (foreign : isOfDomain domain type fields = false) :
    State.KeepsDomain domain enforcer.state (enforcer.after (enforcer.add type fields)).state :=
  keepsDomain_update fun _ _ => State.KeepsDomain.addRule foreign

theorem keepsDomain_remove {type : String} {fields : List String}
    (foreign : isOfDomain domain type fields = false) :
    State.KeepsDomain domain enforcer.state (enforcer.after (enforcer.remove type fields)).state :=
  keepsDomain_update fun _ _ => State.KeepsDomain.removeRule foreign

theorem keepsDomain_removeFiltered {type : String} {index : Word} {values : List String}
    (spares : enforcer.SparesSelected domain type index values) :
    State.KeepsDomain domain enforcer.state
      (enforcer.after (enforcer.removeFiltered type index values)).state := by
  apply keepsDomain_after
  intro answer after done
  obtain ⟨⟨removed, changed⟩, updated, same⟩ := Result.bind_eq_ok.1 done
  cases same
  obtain ⟨state, made, rfl⟩ := exists_of_update updated
  exact State.KeepsDomain.removeFiltered spares made

/-- An operation that spares a domain keeps its rules as they are. -/
theorem keepsDomain_perform [Regex.Engine] {operation : Operation}
    (spares : operation.Spares domain enforcer) :
    State.KeepsDomain domain enforcer.state (enforcer.perform operation).state := by
  cases operation with
  | add type fields => exact keepsDomain_add spares
  | addMany type rules => exact keepsDomain_update fun _ _ => State.KeepsDomain.addRules spares
  | remove type fields => exact keepsDomain_remove spares
  | removeFiltered type index values => exact keepsDomain_removeFiltered spares
  | addRole user role domain? => exact keepsDomain_add spares
  | deleteRoleForUser user role domain? => exact keepsDomain_remove spares
  | deleteRoles user domain? => exact keepsDomain_removeFiltered spares
  | addPermission user permission => exact keepsDomain_add spares
  | deletePermission user permission => exact keepsDomain_remove spares
  | deleteUser user => exact keepsDomain_after fun _ _ => State.KeepsDomain.deleteSubject spares.1 spares.2
  | deleteRole role => exact keepsDomain_after fun _ _ => State.KeepsDomain.deleteSubject spares.1 spares.2
  | decide request => exact .refl
  | loadModel _ => exact spares.elim
  | loadPolicy _ => exact spares.elim
  | replaceRules _ => exact spares.elim
  | clear => exact spares.elim

theorem keepsDomain_run [Regex.Engine] {operations : List Operation}
    (spared : enforcer.SparedBy domain operations) :
    State.KeepsDomain domain enforcer.state (enforcer.run operations).state := by
  induction operations generalizing enforcer with
  | nil => exact .refl
  | cons operation rest ih => exact (keepsDomain_perform spared.1).trans (ih spared.2)

theorem alikeIn_of_keepsDomain (kept : State.KeepsDomain domain one.state other.state) :
    one.AlikeIn domain other := by
  refine ⟨congrArg CompiledModel.model kept.compiled.symm, ?_, ?_⟩
  · rw [← isOfDomain_permission]
    exact (kept.rules "p").symm
  · intro fields placed
    have listed (rules : List (List String)) :
        fields ∈ rules.filter (isOfDomain domain "g") ↔ fields ∈ rules := by
      simp [isOfDomain_link, placed]
    have same := kept.rules "g"
    rw [get, get, ← listed, ← same, listed]

theorem enforce_eq_of_alikeIn [Regex.Engine] (settled : one.Settled) (settled' : other.Settled)
    {more : List String} (domains : one.model.OfDomains more) (alike : one.AlikeIn domain other)
    {request : List String} (asked : request[1]? = some domain) : one.enforce request = other.enforce request := by
  rw [settled.ready.enforce_eq, settled'.ready.enforce_eq]
  apply settled.orderly.decision_congr domains settled'.orderly (settled.compiled_eq settled' alike.model)
    _ alike.groupings asked
  rw [isOfDomain_permission]
  exact alike.policies

/-- In a model with roles of domains, whatever the effect expression is, the verdict on a request is the
same in all enforcers with the same permissions, in the same order, and the same links of its domain; and
no operation on rules of other domains changes it, nor which rule it is put down to. -/
theorem enforce_isolated [Regex.Engine] (reachable : enforcer.Reachable) {more : List String}
    (domains : enforcer.model.OfDomains more) {domain : String} :
    (∀ other : Enforcer, other.Reachable → enforcer.AlikeIn domain other →
      ∀ request : List String, request[1]? = some domain →
        enforcer.enforce request = other.enforce request) ∧
    ∀ operations : List Operation, enforcer.SparedBy domain operations →
      ∀ request : List String, request[1]? = some domain →
        (enforcer.run operations).enforce request = enforcer.enforce request := by
  have settled := settled_of_reachable reachable
  constructor
  · intro other reached alike request
    exact enforce_eq_of_alikeIn settled (settled_of_reachable reached) domains alike
  · intro operations spared request asked
    have settled' := settled_of_reachable (reachable.run operations)
    have alike := alikeIn_of_keepsDomain (keepsDomain_run spared)
    exact (enforce_eq_of_alikeIn settled settled' domains alike asked).symm

/-- What the staff of one branch may do is the same where the nameless branch and another one have rules
as well, and it stays so when they change. -/
theorem enforce_isolated_of_branches :
    (run { Branches.enforcer with storage? := none }
      [.add "p" ["staff", "one", "file", "read"], .addRole "alice" "staff" (some "one")]).enforce
        ["alice", "one", "file", "read"] =
      (run { Branches.enforcer with storage? := none }
        [.add "p" ["staff", "", "file", "read"], .addRole "alice" "bob" (some "two"),
          .addRole "alice" "staff" (some "one"), .add "p" ["staff", "one", "file", "read"]]).enforce
        ["alice", "one", "file", "read"] ∧
    (run (run { Branches.enforcer with storage? := none }
        [.add "p" ["staff", "", "file", "read"], .addRole "alice" "staff" (some "one")])
      [.addRole "alice" "staff" (some ""), .removeFiltered "p" 0 ["staff"]]).enforce
        ["alice", "one", "file", "read"] =
      (run { Branches.enforcer with storage? := none }
        [.add "p" ["staff", "", "file", "read"], .addRole "alice" "staff" (some "one")]).enforce
        ["alice", "one", "file", "read"] := by
  have reachable (operations : List Operation) :
      (run { Branches.enforcer with storage? := none } operations).Reachable :=
    .intro Branches.ofText_text Branches.ofModel_model none operations
  constructor
  · have domains : (run { Branches.enforcer with storage? := none }
        [.add "p" ["staff", "one", "file", "read"],
          .addRole "alice" "staff" (some "one")]).model.OfDomains [] := by
      with_unfolding_all exact Branches.ofDomains_model
    apply (enforce_isolated (reachable _) domains).1 _ (reachable _) _ _ rfl
    refine ⟨by with_unfolding_all rfl, by decide +kernel, ?_⟩
    intro fields placed
    have here : (run { Branches.enforcer with storage? := none }
        [.add "p" ["staff", "one", "file", "read"],
          .addRole "alice" "staff" (some "one")]).get "g" = [["alice", "staff", "one"]] := by
      decide +kernel
    have there : (run { Branches.enforcer with storage? := none }
        [.add "p" ["staff", "", "file", "read"], .addRole "alice" "bob" (some "two"),
          .addRole "alice" "staff" (some "one"),
          .add "p" ["staff", "one", "file", "read"]]).get "g" =
        [["alice", "bob", "two"], ["alice", "staff", "one"]] := by decide +kernel
    rw [here, there]
    constructor
    · exact List.mem_cons_of_mem _
    · intro inside
      rcases List.mem_cons.1 inside with rfl | later
      · exact absurd placed (by decide)
      · exact later
  · have domains : (run { Branches.enforcer with storage? := none }
        [.add "p" ["staff", "", "file", "read"],
          .addRole "alice" "staff" (some "one")]).model.OfDomains [] := by
      with_unfolding_all exact Branches.ofDomains_model
    apply (enforce_isolated (reachable _) domains).2 _ _ _ rfl
    refine ⟨rfl, ?_, trivial⟩
    show ∀ fields ∈ Enforcer.filtered _ _ _ _, _
    decide +kernel

end Enforcer
end AccessControl
