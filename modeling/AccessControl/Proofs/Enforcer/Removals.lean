import AccessControl.Proofs.Enforcer.Permissions
/-!
Rules that go with a name. A user or a role is taken away by filters on the fields of rules, and so are the
roles of a user; its permissions are listed by such a filter. The rules that go are those with the name in
its place, provided that it is a name: an empty value tells a filter nothing about the field, so that an
empty user, role or domain stands for all of them, and the rules of all of them go. Rules that are not
selected stay as they are, in their order.
-/
namespace AccessControl

namespace State
variable {state after : State} {type : String}

/-- A rule that is there can be removed, and then it alone is gone. -/
theorem Sound.exists_removeRule (sound : state.Sound) {fields : List String}
    (inside : fields ∈ state.store.rules type) :
    ∃ after, state.removeRule type fields = .ok (true, after) ∧ ∀ other, after.store.rules other =
      (state.store.rules other).filter fun rule => !(other == type && rule == fields) := by
  obtain ⟨table, found, -⟩ := sound.exists_table inside
  rw [Store.rules_of_find? found] at inside
  refine ⟨state.withChanged type (·.erase fields) (removeLink fields), ?_, ?_⟩
  · rw [sound.removeRule_eq, Store.table_eq_ok.2 found]
    exact if_pos inside
  · intro other
    rw [rules_withChanged found]
    by_cases same : other = type
    · rw [if_pos same, same, Store.rules_of_find? found, RuleTable.erase]
      simp [bne]
    · rw [if_neg same, beq_false_of_ne same]
      exact (List.filter_true _).symm

/-- Rules of a known type can always be removed by a filter. -/
theorem Sound.exists_removeFiltered (sound : state.Sound) (known : type ∈ state.store.types) (index : Word)
    (values : List String) :
    ∃ removed after, state.removeFiltered type index values = .ok (removed, after) := by
  obtain ⟨table, found⟩ := (Catalogue.mem_names_iff _ _).1 known
  unfold State.removeFiltered Store.removeFiltered
  rw [Store.table_eq_ok.2 found]
  by_cases none : (state.store.filtered type index values).isEmpty = true
  · exact ⟨[], state, by simp [bind, Except.bind, pure, Except.pure, none]⟩
  · have some := Bool.eq_false_iff.2 none
    refine ⟨_, _, Eq.trans ?_ (sound.relinked found (·.eraseMatching index values)
      (fun relation => (state.store.filtered type index values).foldl
        (fun relation fields => removeLink fields relation) relation)
      (state.store.filtered type index values))⟩
    simp [bind, Except.bind, pure, Except.pure, some]

/-- A filtered removal takes the selected rules of its type, and no others. -/
theorem rules_removeFiltered {index : Word} {values : List String} {removed : List (List String)}
    (done : state.removeFiltered type index values = .ok (removed, after)) (other : String) :
    after.store.rules other = (state.store.rules other).filter fun fields =>
      !(other == type && fieldsMatch fields index values) := by
  by_cases same : other = type
  · subst same
    simp only [beq_self_eq_true, Bool.true_and]
    obtain ⟨table, found, rfl, ⟨none, rfl⟩ | ⟨-, rfl⟩⟩ := removeFiltered_cases done
    · rw [Store.rules_of_find? found]
      symm
      rw [List.filter_eq_self]
      intro fields inside
      simpa using List.filter_eq_nil_iff.1 none fields inside
    · rw [rules_withChanged found, if_pos rfl, Store.rules_of_find? found]
      rfl
  · have untouched : after.store.rules other = state.store.rules other := by
      obtain ⟨table, found, -, ⟨-, rfl⟩ | ⟨-, rfl⟩⟩ := removeFiltered_cases done
      · rfl
      · rw [rules_withChanged found, if_neg same]
    rw [untouched, beq_false_of_ne same]
    exact (List.filter_true _).symm

end State

/-- A call that takes away what there is of a user or of a role. -/
inductive Dismissal where
  | user (name : String)
  | role (name : String)
  | rolesOf (name : String) (domain? : Option String)

namespace Dismissal

/-- The change that a call works out. -/
def changed (enforcer : Enforcer) : Dismissal → Except Error (Bool × Enforcer)
  | user name => enforcer.deleteUser name
  | role name => enforcer.deleteRole name
  | rolesOf name domain? => enforcer.deleteRoles name domain?

/-- The rules that a call is about, where `holds` tells whether a field is there for a name. -/
def picks (holds : String → Option String → Bool) (type : String) (fields : List String) :
    Dismissal → Bool
  | user name => (type == "g" || type == "p") && holds name fields[0]?
  | role name => type == "g" && holds name fields[1]? || type == "p" && holds name fields[0]?
  | rolesOf name domain? => type == "g" && holds name fields[0]? && domain?.all (holds · fields[2]?)

/-- The rules that have the given names in their places. -/
def names (dismissal : Dismissal) (type : String) (fields : List String) : Bool :=
  dismissal.picks (fun name field? => field? == some name) type fields

/-- The rules that the filters of a call select, to which an empty name is no condition. -/
def selects (dismissal : Dismissal) (type : String) (fields : List String) : Bool :=
  dismissal.picks (fun name field? => name.isEmpty || field? == some name) type fields

/-- None of the given names is empty. -/
def Named : Dismissal → Prop
  | user name => name ≠ ""
  | role name => name ≠ ""
  | rolesOf name domain? => name ≠ "" ∧ ∀ domain ∈ domain?, domain ≠ ""

theorem selects_eq_names {dismissal : Dismissal} (named : dismissal.Named) :
    dismissal.selects = dismissal.names := by
  have nonempty {name : String} (given : name ≠ "") : name.isEmpty = false := by simpa using given
  funext type fields
  unfold selects names
  cases dismissal with
  | user name =>
    have given : name ≠ "" := named
    simp only [picks, nonempty given, Bool.false_or]
  | role name =>
    have given : name ≠ "" := named
    simp only [picks, nonempty given, Bool.false_or]
  | rolesOf name domain? =>
    obtain ⟨given, placed⟩ := named
    cases domain? with
    | none => simp only [picks, nonempty given, Bool.false_or, Option.all_none]
    | some domain => simp only [picks, nonempty given, nonempty (placed domain rfl), Bool.false_or,
        Option.all_some]

end Dismissal

namespace Enforcer
variable {enforcer : Enforcer}

/-- A change succeeds and takes away just the rules that are to go; the others stay, in their order. -/
def Loses (enforcer : Enforcer) (changed : Except Error (Bool × Enforcer))
    (gone : String → List String → Bool) : Prop :=
  ∃ answer after, changed = .ok (answer, after) ∧ after.model = enforcer.model ∧
    ∀ type, after.get type = (enforcer.get type).filter (!gone type ·)

theorem filter_eq_filter_iff {rules : List (List String)} {one other : List String → Bool} :
    rules.filter one = rules.filter other ↔ ∀ fields ∈ rules, one fields = other fields := by
  constructor
  · intro same fields inside
    have kept : fields ∈ rules.filter one ↔ fields ∈ rules.filter other := by rw [same]
    rw [List.mem_filter, List.mem_filter, and_iff_right inside, and_iff_right inside] at kept
    exact Bool.eq_iff_iff.2 kept
  · exact List.filter_congr

/-- What goes is the same as something else just when both select the same of the present rules. -/
theorem Loses.iff {changed : Except Error (Bool × Enforcer)} {gone expected : String → List String → Bool}
    (loses : enforcer.Loses changed gone) : enforcer.Loses changed expected ↔
      ∀ type, ∀ fields ∈ enforcer.get type, gone type fields = expected type fields := by
  obtain ⟨answer, after, done, model, rules⟩ := loses
  have negated {one other : Bool} : (!one) = (!other) ↔ one = other := by cases one <;> cases other <;> decide
  constructor
  · rintro ⟨_, _, done', -, rules'⟩ type
    cases done.symm.trans done'
    have same := (rules type).symm.trans (rules' type)
    rw [filter_eq_filter_iff] at same
    simpa only [negated] using same
  · intro same
    refine ⟨answer, after, done, model, fun type => ?_⟩
    rw [rules, filter_eq_filter_iff]
    simpa only [negated] using same type

section
variable (sound : enforcer.state.Sound) (role : enforcer.model.roles.has "g" = true)
include sound role

theorem loses_removeFiltered (index : Word) (values : List String) :
    enforcer.Loses (enforcer.removeFiltered "g" index values) fun type fields =>
      type == "g" && fieldsMatch fields index values := by
  have known := sound.mem_types.2 (.inr ((Catalogue.has_iff_mem_names _ _).1 role))
  obtain ⟨removed, state, done⟩ := sound.exists_removeFiltered known index values
  refine ⟨!removed.isEmpty, { enforcer with state }, ?_, ?_, State.rules_removeFiltered done⟩
  · unfold removeFiltered update
    simp only [done]
    rfl
  · exact congrArg CompiledModel.model (State.Leads.removeFiltered .refl done).compiled_eq

/-- The links of a name go first, which leaves its permissions to the second step. -/
theorem loses_deleteSubject (policy : enforcer.model.policies.has "p" = true) (name : String)
    (index : Word) : enforcer.Loses (enforcer.deleteSubject name index) fun type fields =>
      type == "g" && fieldsMatch fields index [name] || type == "p" && fieldsMatch fields 0 [name] := by
  have related : enforcer.state.roles.has "g" = true := by
    rw [Catalogue.has_iff_mem_names, sound.relations, ← Catalogue.has_iff_mem_names]
    exact role
  have linked := sound.mem_types.2 (.inr ((Catalogue.has_iff_mem_names _ _).1 role))
  have permitted := sound.mem_types.2 (.inl ((Catalogue.has_iff_mem_names _ _).1 policy))
  obtain ⟨links, middle, unlinked⟩ := sound.exists_removeFiltered linked index [name]
  have first := State.Leads.removeFiltered .refl unlinked
  have sound' := sound.removeFiltered unlinked
  rw [sound.mem_types, ← first.compiled_eq, ← sound'.mem_types] at permitted
  obtain ⟨permissions, state, removed⟩ := sound'.exists_removeFiltered permitted 0 [name]
  refine ⟨!(links.isEmpty && permissions.isEmpty), { enforcer with state }, ?_, ?_, ?_⟩
  · unfold deleteSubject update State.removeLinksOf
    simp only [roleType, permissionType, if_pos related, unlinked]
    change (middle.removeFiltered "p" 0 [name] >>= _) >>= _ = _
    rw [removed]
    rfl
  · exact congrArg CompiledModel.model (first.removeFiltered removed).compiled_eq
  · intro type
    change state.store.rules type = (enforcer.state.store.rules type).filter _
    rw [State.rules_removeFiltered removed, State.rules_removeFiltered unlinked, List.filter_filter]
    apply List.filter_congr
    intro fields _
    rw [Bool.not_or, Bool.and_comm]

/-- A call takes away just the rules that its filters select. -/
theorem loses_selected (policy : enforcer.model.policies.has "p" = true) (dismissal : Dismissal) :
    enforcer.Loses (dismissal.changed enforcer) dismissal.selects := by
  cases dismissal with
  | user name =>
    apply (loses_deleteSubject sound role policy name 0).iff.2
    intro type fields _
    simp only [fieldsMatch, BitVec.reduceToNat, Dismissal.selects, Dismissal.picks, Bool.and_true,
      ← Bool.and_or_distrib_right]
  | role name =>
    apply (loses_deleteSubject sound role policy name 1).iff.2
    intro type fields _
    simp only [fieldsMatch, BitVec.reduceToNat, Dismissal.selects, Dismissal.picks, Bool.and_true]
  | rolesOf name domain? =>
    apply (loses_removeFiltered sound role 0 (linkFields name "" domain?)).iff.2
    intro type fields _
    -- The role is not said, which is an empty value between the two that are.
    have unsaid : "".isEmpty = true := rfl
    cases domain? with
    | none => simp [linkFields, fieldsMatch, Dismissal.selects, Dismissal.picks, unsaid]
    | some domain => simp [linkFields, fieldsMatch, Dismissal.selects, Dismissal.picks, unsaid, Bool.and_assoc]

/-- The rules with the given names in their places go, when these are names. -/
theorem loses_names (policy : enforcer.model.policies.has "p" = true) (dismissal : Dismissal)
    (named : dismissal.Named) : enforcer.Loses (dismissal.changed enforcer) dismissal.names := by
  rw [← Dismissal.selects_eq_names named]
  exact loses_selected sound role policy dismissal

end

theorem permissions_eq (enforcer : Enforcer) (user : String) : enforcer.permissions user =
    (enforcer.get "p").filter fun fields => user.isEmpty || fields[0]? == some user := by
  unfold permissions filtered Store.filtered
  simp only [fieldsMatch, Bool.and_true]
  rfl

/-- Users attain themselves. -/
theorem attains_self (enforcer : Enforcer) (user : String) (domain? : Option String) :
    enforcer.attains user user domain? = true := by
  unfold attains
  split
  · exact RoleRelation.reaches_iff.2 .refl
  · exact beq_self_eq_true user

/-- The rules with a user as their subject are among those that the user is granted. -/
theorem sublist_implicitPermissions (sound : enforcer.state.Sound) (user : String) :
    ((enforcer.get "p").filter (·[0]? == some user)).Sublist (enforcer.implicitPermissions user none) := by
  rw [implicitPermissions_eq sound]
  apply List.monotone_filter_right
  intro permission own
  rw [beq_iff_eq, ← List.head?_eq_getElem?] at own
  simp [grants, own, attains_self]

/-- Calls that take away a user, a role or the roles of a user take the rules with the given names in their
places, and the permissions of a user are listed as the rules with the user for their subject, so long as
none of the names is empty. An empty name is no condition on the rules that are selected. -/
theorem takes_selected [Regex.Engine] (reachable : enforcer.Reachable)
    (policy : enforcer.model.policies.has "p" = true) (role : enforcer.model.roles.has "g" = true) :
    (∀ dismissal : Dismissal,
      enforcer.Loses (dismissal.changed enforcer) dismissal.selects ∧
      (dismissal.Named → enforcer.Loses (dismissal.changed enforcer) dismissal.names) ∧
      (enforcer.Loses (dismissal.changed enforcer) dismissal.names ↔
        ∀ type, ∀ fields ∈ enforcer.get type,
          dismissal.selects type fields = dismissal.names type fields)) ∧
    ∀ user : String,
      enforcer.permissions user =
        (enforcer.get "p").filter (fun fields => user.isEmpty || fields[0]? == some user) ∧
      (user ≠ "" →
        enforcer.permissions user = (enforcer.get "p").filter (·[0]? == some user) ∧
        (enforcer.permissions user).Sublist (enforcer.implicitPermissions user none)) := by
  have sound := sound_of_reachable reachable
  constructor
  · intro dismissal
    have loses := loses_selected sound role policy dismissal
    exact ⟨loses, loses_names sound role policy dismissal, loses.iff⟩
  · intro user
    refine ⟨permissions_eq enforcer user, ?_⟩
    intro named
    have listed : enforcer.permissions user = (enforcer.get "p").filter (·[0]? == some user) := by
      have nonempty : user.isEmpty = false := by simpa using named
      simp only [permissions_eq, nonempty, Bool.false_or]
    exact ⟨listed, listed ▸ sublist_implicitPermissions sound user⟩

end Enforcer

namespace Branches

/-- The enforcer after a role has been given a permission in one branch, and a user the role in two. -/
def assigned : Enforcer :=
  Enforcer.run { enforcer with storage? := none }
    [.add "p" ["staff", "one", "file", "read"], .addRole "alice" "staff" (some "one"),
      .addRole "alice" "staff" (some "two")]

theorem reachable_assigned : assigned.Reachable := .intro ofText_text ofModel_model none _

end Branches

namespace Enforcer
open Branches

/-- The roles of a user in one of its branches, and the permissions of a role. -/
theorem takes_selected_of_branches :
    assigned.Loses (assigned.deleteRoles "alice" (some "one"))
      (Dismissal.rolesOf "alice" (some "one")).names ∧
    assigned.permissions "staff" = (assigned.get "p").filter (·[0]? == some "staff") ∧
    (assigned.permissions "staff").Sublist (assigned.implicitPermissions "staff" none) := by
  have taken := takes_selected reachable_assigned (by decide +kernel) (by decide +kernel)
  exact ⟨(taken.1 (.rolesOf "alice" (some "one"))).2.1 ⟨by decide, by simp⟩, (taken.2 "staff").2 (by decide)⟩

/-- Without a name the rules of everyone go: the links and the permissions, with the empty user and with
the empty role, and the roles of a user in all branches with the empty one. The permissions that are
listed for the empty user are not its own. -/
theorem not_loses_names_of_empty :
    assigned.Reachable ∧
    assigned.model.policies.has "p" = true ∧
    assigned.model.roles.has "g" = true ∧
    ¬assigned.Loses (assigned.deleteUser "") (Dismissal.user "").names ∧
    ¬assigned.Loses (assigned.deleteRole "") (Dismissal.role "").names ∧
    ¬assigned.Loses (assigned.deleteRoles "alice" (some "")) (Dismissal.rolesOf "alice" (some "")).names ∧
    ¬(assigned.permissions "").Sublist (assigned.implicitPermissions "" none) := by
  have policy : assigned.model.policies.has "p" = true := by decide +kernel
  have role : assigned.model.roles.has "g" = true := by decide +kernel
  have differs (dismissal : Dismissal) {type : String} {fields : List String}
      (inside : fields ∈ assigned.get type)
      (other : dismissal.selects type fields ≠ dismissal.names type fields) :
      ¬assigned.Loses (dismissal.changed assigned) dismissal.names := fun loses =>
    other ((loses_selected (sound_of_reachable reachable_assigned) role policy dismissal).iff.1 loses type
      fields inside)
  have link : ["alice", "staff", "one"] ∈ assigned.get "g" := by decide +kernel
  refine ⟨reachable_assigned, policy, role, ?_, ?_, ?_, ?_⟩
  · exact differs (.user "") link (by decide)
  · exact differs (.role "") link (by decide)
  · exact differs (.rolesOf "alice" (some "")) link (by decide)
  · intro sublist
    have listed : ["staff", "one", "file", "read"] ∈ assigned.permissions "" := by decide +kernel
    have granted : ["staff", "one", "file", "read"] ∉ assigned.implicitPermissions "" none := by
      decide +kernel
    exact granted (sublist.subset listed)

end Enforcer
end AccessControl
