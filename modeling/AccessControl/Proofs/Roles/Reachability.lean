import AccessControl.Proofs.Roles.Walk
/-!
Which roles a name has. A role is found just when a path of links leads to it, however many cycles there are
on the way. So a relation reaches a role from a name if the name is the role itself or a path leads from the
one to the other, and that depends on the links alone, not on their order.
-/
namespace AccessControl

namespace RoleGraph
open Search
variable {graph : RoleGraph} {name role : String}

/-- A path that does not come back to its start avoids it from its last visit on. -/
theorem path_from (path : Relation.ReflTransGen (Link graph.rolesOf) name role) :
    role = name ∨
      Relation.TransGen (LinkInto graph.rolesOf (graph.names.filter (· != name))) name role := by
  induction path with
  | refl => exact .inl rfl
  | @tail middle last _ direct ih =>
    by_cases back : last = name
    · exact .inl back
    · have listed : last ∈ graph.names.filter (· != name) :=
        List.mem_filter.2 ⟨mem_names_of_rolesOf direct, by simpa using back⟩
      rcases ih with rfl | before
      · exact .inr (.single ⟨direct, listed⟩)
      · exact .inr (before.tail ⟨direct, listed⟩)

/-- The roles of a name are the others that a path leads to. -/
theorem mem_allRolesOf_iff : role ∈ graph.allRolesOf name ↔
    role ≠ name ∧ Relation.ReflTransGen (Link graph.rolesOf) name role := by
  have found : role ∈ graph.allRolesOf name ↔
      Relation.TransGen (LinkInto graph.rolesOf (graph.names.filter (· != name))) name role := by
    rw [allRolesOf_eq, mem_explore_iff]
    simp
  rw [found]
  constructor
  · intro path
    obtain ⟨last, -, link⟩ := Relation.TransGen.tail'_iff.1 path
    refine ⟨by simpa using (List.mem_filter.1 link.2).2, ?_⟩
    have links := Relation.TransGen.mono (p := Link graph.rolesOf) (fun _ _ link => link.1) _ _ path
    exact links.to_reflTransGen
  · rintro ⟨other, path⟩
    exact (path_from path).resolve_left other

theorem nodup_allRolesOf (graph : RoleGraph) (name : String) : (graph.allRolesOf name).Nodup := by
  rw [allRolesOf_eq]
  exact nodup_explore graph.nodup_rolesOf _ _

/-- The roles of a name are listed in the order of their distance from it. -/
theorem pairwise_allRolesOf (graph : RoleGraph) (name : String) :
    (graph.allRolesOf name).Pairwise fun one other =>
      distance (Link graph.rolesOf) name one ≤ distance (Link graph.rolesOf) name other := by
  rw [allRolesOf_eq]
  apply pairwise_explore
  · simp
  · intro role other path
    obtain ⟨_, _, link⟩ := Relation.TransGen.tail'_iff.1 ((path_from path).resolve_left other)
    exact link.2

end RoleGraph

namespace RoleRelation
variable {relation : RoleRelation}

/-- Links of a domain lead from one name to another, or the two are one. -/
def Path (relation : RoleRelation) (domain? : Option String) : String → String → Prop :=
  Relation.ReflTransGen fun member role => role ∈ relation.rolesOf member domain?

theorem allRolesOf_empty (name : String) (domain? : Option String) : empty.allRolesOf name domain? = [] :=
  rfl

/-- A role is reached if it is the name itself or among all its roles. -/
theorem reaches_eq_contains (relation : RoleRelation) (name role : String) (domain? : Option String) :
    relation.reaches name role domain? = (name :: relation.allRolesOf name domain?).contains role := by
  rw [reaches, RoleGraph.reaches_eq, List.contains_cons]
  have swapped : (name == role) = (role == name) := by rw [Bool.eq_iff_iff, beq_iff_eq, beq_iff_eq, eq_comm]
  rw [swapped]
  rfl

theorem mem_allRolesOf_iff {name role : String} {domain? : Option String} :
    role ∈ relation.allRolesOf name domain? ↔ role ≠ name ∧ relation.Path domain? name role :=
  RoleGraph.mem_allRolesOf_iff

/-- Reaching a role is to have a path to it. -/
theorem reaches_iff {name role : String} {domain? : Option String} :
    relation.reaches name role domain? = true ↔ relation.Path domain? name role := by
  unfold reaches
  rw [RoleGraph.reaches_eq, Bool.or_eq_true, beq_iff_eq, List.contains_iff_mem,
    RoleGraph.mem_allRolesOf_iff]
  constructor
  · rintro (rfl | ⟨-, path⟩)
    · exact .refl
    · exact path
  · intro path
    by_cases same : name = role
    · exact .inl same
    · exact .inr ⟨Ne.symm same, path⟩

/-- Relations with the same links in a domain reach the same roles there, whatever the order of the
links and whatever there is in other domains. -/
theorem reaches_eq_of_mem_iff {other : RoleRelation} {domain? : Option String} (same : ∀ member role,
      role ∈ relation.rolesOf member domain? ↔ role ∈ other.rolesOf member domain?)
    (name role : String) : relation.reaches name role domain? = other.reaches name role domain? := by
  have links : (fun member role => role ∈ relation.rolesOf member domain?) =
      fun member role => role ∈ other.rolesOf member domain? := by
    funext member role
    exact propext (same member role)
  rw [Bool.eq_iff_iff, reaches_iff, reaches_iff, Path, Path, links]

end RoleRelation
end AccessControl
