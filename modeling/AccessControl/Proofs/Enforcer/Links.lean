import AccessControl.Enforcer
import AccessControl.Proofs.Roles.Links
import Mathlib.Data.List.Basic
/-!
The links that grouping rules stand for. A role relation follows some rules when its direct links are
just those of the rules. It goes on following them when a rule comes with its link, and when rules go
with their links, provided that no two rules stand for one link, as is so for rules of one shape.
-/
namespace AccessControl

/-- The member, the role and the domain of the link that the fields of a grouping rule stand for. -/
def linkOf? : List String → Option (String × String × String)
  | member :: role :: more => some (member, role, more.head?.getD defaultDomain)
  | _ => none

/-- Rules that are as long as their shape says are told apart by their links. -/
theorem eq_of_linkOf?_eq {shape : RoleShape} {one other : List String}
    (long : one.length = shape.arity) (alike : other.length = shape.arity)
    (same : linkOf? one = linkOf? other) : one = other := by
  cases shape with
  | global =>
    obtain ⟨member, role, rfl⟩ := List.length_eq_two.1 long
    obtain ⟨member', role', rfl⟩ := List.length_eq_two.1 alike
    simp only [linkOf?, Option.some.injEq, Prod.mk.injEq] at same
    rw [same.1, same.2.1]
  | perDomain =>
    obtain ⟨member, role, domain, rfl⟩ := List.length_eq_three.1 long
    obtain ⟨member', role', domain', rfl⟩ := List.length_eq_three.1 alike
    simp only [linkOf?, List.head?_cons, Option.getD_some, Option.some.injEq, Prod.mk.injEq] at same
    rw [same.1, same.2.1, same.2.2]

namespace State

theorem mem_rolesOf_addLink (fields : List String) (relation : RoleRelation)
    (member role domain : String) :
    role ∈ (addLink fields relation).rolesOf member (some domain) ↔
      linkOf? fields = some (member, role, domain) ∨ role ∈ relation.rolesOf member (some domain) := by
  unfold addLink linkOf?
  split
  · rw [RoleRelation.mem_rolesOf_add]
    simp only [Option.getD_some, Option.some.injEq, Prod.mk.injEq]
    rw [eq_comm (a := member), eq_comm (a := role), eq_comm (a := domain)]
  · simp

theorem mem_rolesOf_removeLink (fields : List String) (relation : RoleRelation)
    (member role domain : String) :
    role ∈ (removeLink fields relation).rolesOf member (some domain) ↔
      linkOf? fields ≠ some (member, role, domain) ∧ role ∈ relation.rolesOf member (some domain) := by
  unfold removeLink linkOf?
  split
  · rw [RoleRelation.mem_rolesOf_remove]
    simp only [Option.getD_some, ne_eq, Option.some.injEq, Prod.mk.injEq]
    rw [eq_comm (a := member), eq_comm (a := role), eq_comm (a := domain)]
  · simp

theorem mem_rolesOf_foldl_removeLink (removed : List (List String)) (relation : RoleRelation)
    (member role domain : String) :
    role ∈ (removed.foldl (fun relation fields => removeLink fields relation) relation).rolesOf
        member (some domain) ↔
      (∀ fields ∈ removed, linkOf? fields ≠ some (member, role, domain)) ∧
        role ∈ relation.rolesOf member (some domain) := by
  induction removed generalizing relation with
  | nil => simp
  | cons first rest ih =>
    rw [List.foldl_cons, ih, mem_rolesOf_removeLink, List.forall_mem_cons]
    constructor
    · rintro ⟨later, here, found⟩
      exact ⟨⟨here, later⟩, found⟩
    · rintro ⟨⟨here, later⟩, found⟩
      exact ⟨later, here, found⟩

end State

namespace RoleRelation

/-- The links of the relation are those that the rules stand for. -/
def Follows (relation : RoleRelation) (rules : List (List String)) : Prop :=
  ∀ member role domain, role ∈ relation.rolesOf member (some domain) ↔
    ∃ fields ∈ rules, linkOf? fields = some (member, role, domain)

theorem follows_empty : empty.Follows [] := by
  intro member role domain
  simp

variable {relation : RoleRelation} {rules : List (List String)}

theorem Follows.addLink (follows : relation.Follows rules) (fields : List String) :
    (State.addLink fields relation).Follows (rules ++ [fields]) := by
  intro member role domain
  rw [State.mem_rolesOf_addLink, follows member role domain]
  simp [or_and_right, exists_or, or_comm]

/-- Some rules go, and their links with them. -/
theorem Follows.removeLinks (follows : relation.Follows rules) {removed kept : List (List String)}
    (parted : ∀ fields, fields ∈ kept ↔ fields ∈ rules ∧ fields ∉ removed)
    (apart : ∀ one ∈ rules, ∀ other ∈ removed, linkOf? one = linkOf? other → one = other) :
    (removed.foldl (fun relation fields => State.removeLink fields relation) relation).Follows kept := by
  intro member role domain
  rw [State.mem_rolesOf_foldl_removeLink, follows member role domain]
  constructor
  · rintro ⟨untouched, fields, found, link⟩
    refine ⟨fields, (parted fields).2 ⟨found, ?_⟩, link⟩
    intro gone
    exact untouched fields gone link
  · rintro ⟨fields, left, link⟩
    obtain ⟨found, stays⟩ := (parted fields).1 left
    refine ⟨?_, fields, found, link⟩
    intro other gone same
    exact stays (apart fields found other gone (link.trans same.symm) ▸ gone)

end RoleRelation
end AccessControl
