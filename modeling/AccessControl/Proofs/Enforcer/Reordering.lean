import AccessControl.Proofs.Enforcer.Effects
import AccessControl.Proofs.Enforcer.History
import AccessControl.Proofs.Roles.Reachability
/-!
Rules in another order. The effects that are present among the matching rules do not depend on the order of the
rules, nor do the roles that links lead to depend on the order of the links; so no answer does, unless the first
matching rule decides. Which of several allowing or denying rules is told as the one that decided is another
matter; it is the first.
-/
namespace AccessControl

namespace State

/-- Two states of one compiled model with the same rules, each in an order of its own. -/
structure Reorders (one other : State) : Prop where
  compiled : one.compiled = other.compiled
  rules : ∀ type, (one.store.rules type).Perm (other.store.rules type)

namespace Reorders
variable {one other : State} (reorders : one.Reorders other)
include reorders

theorem deciding_perm : one.deciding.Perm other.deciding := by
  unfold deciding
  rw [reorders.compiled]
  exact reorders.rules _

variable [Regex.Engine] (orderly : one.Orderly) (orderly' : other.Orderly)
include orderly orderly'

theorem agree (request rule : List String) :
    Term.Agree ⟨request, rule, one.roles⟩ ⟨request, rule, other.roles⟩ := by
  refine ⟨rfl, rfl, ?_⟩
  intro type member role domain?
  unfold Term.isLinked
  rcases orderly.find?_roles orderly' reorders.compiled type with ⟨none, none'⟩ |
    ⟨relation, relation', here, there⟩
  · simp only [none, none']
  · simp only [here, there]
    apply RoleRelation.reaches_eq_of_mem_iff
    intro member role
    change role ∈ relation.rolesOf member (some (domain?.getD defaultDomain)) ↔
      role ∈ relation'.rolesOf member (some (domain?.getD defaultDomain))
    rw [orderly.recorded type relation here, orderly'.recorded type relation' there]
    exact ((reorders.rules type).filterMap _).mem_iff

theorem outcome_eq (request : List String) : one.outcome request = other.outcome request :=
  funext fun rule => outcome_congr reorders.compiled (reorders.agree orderly orderly' request rule)

theorem isPresent_eq (request : List String) : one.isPresent request = other.isPresent request := by
  funext effect
  unfold isPresent
  rw [reorders.outcome_eq orderly orderly']
  exact reorders.deciding_perm.any_eq

/-- Verdicts on a request give the same answer. -/
theorem allowed_eq (unordered : one.compiled.effect.combinator ≠ .priority) {request : List String}
    {verdict verdict' : Verdict} (ruling : one.Ruling request (.ok verdict))
    (ruling' : other.Ruling request (.ok verdict')) : verdict.allowed = verdict'.allowed := by
  have settled := settle?_of_ruling unordered ruling
  rw [reorders.compiled] at unordered
  have settled' := settle?_of_ruling unordered ruling'
  rw [reorders.compiled, reorders.isPresent_eq orderly orderly'] at settled
  exact Option.some.inj (settled.symm.trans settled')

end Reorders
end State

namespace Enforcer
variable [Regex.Engine] {one other : Enforcer}

/-- Whatever operations have led to two enforcers, if they have the same model, in which not simply the first
matching rule decides, and the same rules in any order, they give the same answer to every request for which
the matcher fails on none of the rules; and they give one if the request is as long as declared. -/
theorem enforce_reordered (reachable : one.Reachable) (reachable' : other.Reachable)
    (model : one.model = other.model) (unordered : one.state.compiled.effect.combinator ≠ .priority)
    (rules : ∀ type, (one.get type).Perm (other.get type)) {request : List String}
    (evaluates : ∀ rule ∈ one.get one.state.compiled.matcher.type,
      ∃ answer, one.state.compiled.matcher.eval ⟨request, rule, one.state.roles⟩ = .ok answer) :
    (one.enforce request).map (·.allowed) = (other.enforce request).map (·.allowed) ∧
      (request.length = one.model.request.length →
        ∃ answer, (one.enforce request).map (·.allowed) = .ok answer) := by
  have settled := settled_of_reachable reachable
  have settled' := settled_of_reachable reachable'
  have compiled := settled.compiled_eq settled' model
  have reorders : one.state.Reorders other.state := ⟨compiled, rules⟩
  rw [settled.ready.enforce_eq, settled'.ready.enforce_eq]
  by_cases long : request.length = one.model.request.length
  · have succeeds : ∀ rule ∈ one.state.deciding, ∀ error, one.state.outcome request rule ≠ .failed error := by
      intro rule inside
      obtain ⟨answer, evaluated⟩ := evaluates rule inside
      obtain ⟨effect, stated⟩ := settled.ready.exists_statedEffect inside
      exact State.outcome_ne_failed evaluated stated
    have succeeds' : ∀ rule ∈ other.state.deciding, ∀ error,
        other.state.outcome request rule ≠ .failed error := by
      rw [← reorders.outcome_eq settled.orderly settled'.orderly]
      exact fun rule inside => succeeds rule (reorders.deciding_perm.mem_iff.2 inside)
    obtain ⟨verdict, ruling⟩ := State.exists_ruling_ok long succeeds
    obtain ⟨verdict', ruling'⟩ := State.exists_ruling_ok (compiled ▸ long) succeeds'
    have same := reorders.allowed_eq settled.orderly settled'.orderly unordered ruling ruling'
    rw [State.decision_of_ruling ruling, State.decision_of_ruling ruling']
    exact ⟨congrArg Except.ok same, fun _ => ⟨verdict.allowed, rfl⟩⟩
  · rw [State.decision_of_ruling (.arity long), State.decision_of_ruling (.arity (compiled ▸ long))]
    refine ⟨?_, fun declared => absurd declared long⟩
    rw [compiled]

end Enforcer

namespace Visitors

/-- The text of a model where one denying rule counts for more than any that allow. -/
def text : String :=
  "r = who\np = who, eft\ng = _, _\ne = some(where (p.eft == allow)) && !some(where (p.eft == deny))\nm = g(r.who, p.who)"

/-- The model itself. -/
def model : Model where
  request := ["who"]
  policies := .ofList [("p", ["who", "eft"])]
  roles := .ofList [("g", .global)]
  effect := "some(where (p.eft == allow)) && !some(where (p.eft == deny))"
  matcher := "g(r.who, p.who)"

/-- The matcher of the model. -/
def matcher : Matcher where
  root := .linked "g" (.requestField 0) (.policyField 0)
  type := "p"

/-- The enforcer that is made of the model. -/
def enforcer : Enforcer where
  state := .ofModel ⟨model, matcher, ⟨.allowAndDeny, false⟩⟩

theorem ofText_text : Model.ofText text = .ok model := by cbv

theorem ofModel_model : Enforcer.ofModel model = .ok enforcer := by
  have matched : Matcher.compile model = .ok matcher := by cbv
  have compiled : CompiledModel.compile model = .ok ⟨model, matcher, ⟨.allowAndDeny, false⟩⟩ :=
    CompiledModel.compile_eq_ok.2 ⟨rfl, matched, by decide +kernel⟩
  exact Result.map_eq_ok.2 ⟨_, compiled, rfl⟩

theorem evaluates (visitor who word : String) (roles : Catalogue RoleRelation) :
    ∃ answer, matcher.eval ⟨[visitor], [who, word], roles⟩ = .ok answer := by
  rw [Matcher.eval_eq_value]
  exact ⟨_, rfl⟩

/-- The enforcer after a permission and then a refusal, with the role that is refused given first. -/
def denyingLast : Enforcer :=
  Enforcer.run { enforcer with storage? := none }
    [.addRole "alice" "guest" none, .addRole "alice" "staff" none, .add "p" ["staff", "allow"],
      .add "p" ["guest", "deny"]]

/-- The enforcer after a refusal and then a permission, with the role that is refused taken and given again. -/
def denyingFirst : Enforcer :=
  Enforcer.run { enforcer with storage? := none }
    [.add "p" ["guest", "deny"], .addRole "alice" "guest" none, .add "p" ["staff", "allow"],
      .addRole "alice" "staff" none, .deleteRoleForUser "alice" "guest" none, .addRole "alice" "guest" none]

end Visitors

namespace Enforcer
open Visitors

/-- Neither the permissions nor the links are in the same order, but the answers are the same. -/
theorem enforce_reordered_of_visitors :
    denyingLast.get "p" ≠ denyingFirst.get "p" ∧ denyingLast.get "g" ≠ denyingFirst.get "g" ∧
      (denyingLast.enforce ["alice"]).map (·.allowed) = (denyingFirst.enforce ["alice"]).map (·.allowed) := by
  have reordered : denyingLast.rules.toList.Perm denyingFirst.rules.toList := by decide +kernel
  refine ⟨by decide +kernel, by decide +kernel, ?_⟩
  refine (enforce_reordered (.intro ofText_text ofModel_model none _)
    (.intro ofText_text ofModel_model none _) ?_ ?_ ?_ ?_).1
  · trans Visitors.model
    · with_unfolding_all rfl
    · symm
      with_unfolding_all rfl
  · with_unfolding_all decide
  · intro type
    change (denyingLast.state.store.rules type).Perm (denyingFirst.state.store.rules type)
    rw [Store.rules_eq, Store.rules_eq]
    exact (reordered.filter _).map _
  · have listed : denyingLast.get "p" = [["staff", "allow"], ["guest", "deny"]] := by decide +kernel
    have kept : denyingLast.state.compiled.matcher = matcher := by with_unfolding_all rfl
    change ∀ rule ∈ denyingLast.get denyingLast.state.compiled.matcher.type, ∃ answer,
      denyingLast.state.compiled.matcher.eval ⟨["alice"], rule, denyingLast.state.roles⟩ = .ok answer
    rw [kept]
    change ∀ rule ∈ denyingLast.get "p", _
    rw [listed]
    simp only [List.forall_mem_cons]
    exact ⟨evaluates _ _ _ _, evaluates _ _ _ _, List.forall_mem_nil _⟩

end Enforcer
end AccessControl
