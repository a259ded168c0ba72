import AccessControl.Proofs.Roles.Walk
/-!
The order of members. The members of a role are listed in the order of the names, and a name that has got its
place keeps it, whatever links are added and removed. Names that are new come after the old ones, so that they
change nothing about the order of the old ones; and where all members are old, they are listed as if the new
names were not there.
-/
namespace AccessControl

namespace RoleGraph
variable {graph one other : RoleGraph} {member role : String}

theorem mem_names_of_member (found : role ∈ graph.rolesOf member) : member ∈ graph.names := by
  obtain ⟨node, -, known, -, -⟩ := mem_rolesOf_iff.1 found
  exact mem_names_iff.2 ⟨node, known⟩

/-- The members of a role are the names that have it. -/
theorem membersOf_eq (graph : RoleGraph) (role : String) :
    graph.membersOf role = graph.names.filter fun name => (graph.rolesOf name).contains role := by
  unfold membersOf
  cases known : graph.ids.find? role with
  | none =>
    symm
    rw [List.filter_eq_nil_iff]
    intro name _ found
    have listed := mem_names_of_rolesOf (List.contains_iff_mem.1 found)
    obtain ⟨node, there⟩ := mem_names_iff.1 listed
    rw [known] at there
    cases there
  | some node =>
    have whole : (graph.names.zip graph.edges).map (·.1) = graph.names :=
      List.map_fst_zip (Nat.le_of_eq graph.sized.symm)
    conv_rhs => rw [← whole, List.filter_map]
    dsimp only
    congr 1
    apply List.filter_congr
    rintro ⟨name, roles⟩ inside
    obtain ⟨place, here⟩ := List.mem_iff_getElem?.1 inside
    obtain ⟨named, edges⟩ := List.getElem?_zip_eq_some.1 here
    have linked := mem_rolesOf_of_find? ((graph.indexed name place).2 named) known
    rw [edgesOf, List.getD_eq_getElem?_getD, edges] at linked
    rw [Bool.eq_iff_iff, Function.comp, List.contains_iff_mem, List.contains_iff_mem]
    exact linked.symm

/-- Where all members have had their places for long, they are listed by the names of then. -/
theorem membersOf_of_grown (grown : one.names <+: other.names)
    (fewer : ∀ name, other.rolesOf name ⊆ one.rolesOf name) (role : String) :
    other.membersOf role = one.names.filter fun name => (other.rolesOf name).contains role := by
  obtain ⟨later, names⟩ := grown
  have apart := (List.nodup_append.1 (names ▸ other.nodup_names)).2.2
  rw [membersOf_eq, ← names, List.filter_append]
  refine (List.self_eq_append_right.2 ?_).symm
  rw [List.filter_eq_nil_iff]
  intro name new found
  have old := mem_names_of_member (fewer name (List.contains_iff_mem.1 found))
  exact apart name old name new rfl

theorem names_intern (graph : RoleGraph) (name : String) : graph.names <+: (graph.intern name).2.names := by
  cases known : graph.ids.find? name with
  | some node => rw [intern_of_find? known]
  | none =>
    rw [intern_of_new known]
    exact List.prefix_append _ _

theorem names_connect (graph : RoleGraph) {node next : Nat} (short : next < graph.names.length) :
    (graph.connect node next short).2.names = graph.names := by
  unfold connect
  split <;> rfl

theorem names_link (graph : RoleGraph) (member role : String) :
    graph.names <+: (graph.link member role).2.names := by
  unfold link
  rw [names_connect]
  exact (graph.names_intern member).trans ((graph.intern member).2.names_intern role)

theorem names_unlink (graph : RoleGraph) (member role : String) :
    (graph.unlink member role).2.names = graph.names := by
  unfold unlink
  split <;> rfl

end RoleGraph

namespace RoleRelation
variable {origin middle one other : RoleRelation}

/-- Whether the names of a relation stand in another one in the same places, in every domain. -/
def KeepsNames (one other : RoleRelation) : Prop :=
  ∀ domain?, (one.graph domain?).names <+: (other.graph domain?).names

theorem KeepsNames.refl (relation : RoleRelation) : relation.KeepsNames relation :=
  fun _ => List.prefix_refl _

theorem KeepsNames.trans (first : origin.KeepsNames middle) (second : middle.KeepsNames other) :
    origin.KeepsNames other := fun domain? => (first domain?).trans (second domain?)

theorem keepsNames_add (relation : RoleRelation) (member role : String) (domain? : Option String) :
    relation.KeepsNames (relation.add member role domain?).2 := by
  intro asked?
  simp only [add, graph_insert]
  split
  next same =>
    rw [graph_congr same]
    exact RoleGraph.names_link _ member role
  next => exact List.prefix_refl _

theorem keepsNames_remove (relation : RoleRelation) (member role : String) (domain? : Option String) :
    relation.KeepsNames (relation.remove member role domain?).2 := by
  intro asked?
  unfold remove
  cases known : relation.domains.find? (domain?.getD defaultDomain) with
  | none => exact List.prefix_refl _
  | some graph =>
    simp only [graph_insert]
    split
    next same =>
      have found : relation.graph asked? = graph := by
        rw [graph_congr same, RoleRelation.graph, known]
        rfl
      rw [found, RoleGraph.names_unlink]
    next => exact List.prefix_refl _

/-- Relations that answer every question alike, also in the order in which they list what they find. -/
structure SameAnswers (one other : RoleRelation) : Prop where
  rolesOf : ∀ name domain?, one.rolesOf name domain? = other.rolesOf name domain?
  allRolesOf : ∀ name domain?, one.allRolesOf name domain? = other.allRolesOf name domain?
  reaches : ∀ name role domain?, one.reaches name role domain? = other.reaches name role domain?
  membersOf : ∀ role domain?, one.membersOf role domain? = other.membersOf role domain?

/-- Relations with the same links answer alike when both have come from one that had these links and maybe
more. -/
theorem sameAnswers_of_origin (grown : origin.KeepsNames one) (grown' : origin.KeepsNames other)
    (fewer : ∀ name domain?, one.rolesOf name domain? ⊆ origin.rolesOf name domain?)
    (same : ∀ name domain?, one.rolesOf name domain? = other.rolesOf name domain?) :
    one.SameAnswers other where
  rolesOf := same
  allRolesOf := allRolesOf_congr same
  reaches := reaches_congr same
  membersOf role domain? := by
    have fewer' : ∀ name, other.rolesOf name domain? ⊆ origin.rolesOf name domain? :=
      fun name => same name domain? ▸ fewer name domain?
    refine (RoleGraph.membersOf_of_grown (grown domain?) (fewer · domain?) role).trans
      (Eq.trans ?_ (RoleGraph.membersOf_of_grown (grown' domain?) fewer' role).symm)
    apply List.filter_congr
    intro name _
    exact congrArg (·.contains role) (same name domain?)

end RoleRelation
end AccessControl
