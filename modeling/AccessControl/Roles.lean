import AccessControl.Catalogue
/-!
Role relations. In each domain the members of roles form a directed graph, a link pointing from a
member to its role; links that name no domain belong to the domain with the empty name. A name once
seen keeps its place among the names, also when all its links are gone.
-/
namespace AccessControl

/-- The graph of one domain. Its names are kept in the order of their first appearance, and the place of a
name among them is its node. Each node has the nodes of its direct roles in the order of their links. -/
structure RoleGraph where
  ids : Catalogue Nat
  names : List String
  edges : List (List Nat)
  /-- The node of a name is its place. -/
  indexed : ∀ name node, ids.find? name = some node ↔ names[node]? = some name
  sized : edges.length = names.length
  bounded : ∀ roles ∈ edges, ∀ role ∈ roles, role < names.length
  /-- No link is there twice. -/
  distinct : ∀ roles ∈ edges, roles.Nodup

namespace RoleGraph

/-- The graph without names. -/
def empty : RoleGraph where
  ids := .empty
  names := []
  edges := []
  indexed := by simp
  sized := rfl
  bounded := by simp
  distinct := by simp

instance : Inhabited RoleGraph := ⟨empty⟩

def nameOf (graph : RoleGraph) (node : Nat) : String := graph.names.getD node ""

/-- The nodes of the direct roles of a node. -/
def edgesOf (graph : RoleGraph) (node : Nat) : List Nat := graph.edges.getD node []

theorem edgesOf_mem (graph : RoleGraph) (node : Nat) :
    graph.edgesOf node = [] ∨ graph.edgesOf node ∈ graph.edges := by
  unfold edgesOf
  by_cases known : node < graph.edges.length
  · exact .inr (by simp [List.getD_eq_getElem?_getD, known])
  · exact .inl (by simp [List.getD_eq_getElem?_getD, known])

theorem edgesOf_bounded (graph : RoleGraph) {node role : Nat} (found : role ∈ graph.edgesOf node) :
    role < graph.names.length := by
  rcases graph.edgesOf_mem node with none | listed
  · rw [none] at found
    cases found
  · exact graph.bounded _ listed role found

theorem edgesOf_distinct (graph : RoleGraph) (node : Nat) : (graph.edgesOf node).Nodup := by
  rcases graph.edgesOf_mem node with none | listed
  · rw [none]
    exact .nil
  · exact graph.distinct _ listed

/-- Gives a new name the last place, without links. -/
def push (graph : RoleGraph) (name : String) (new : graph.ids.find? name = none) : RoleGraph where
  ids := graph.ids.insert name graph.names.length
  names := graph.names ++ [name]
  edges := graph.edges ++ [[]]
  indexed := by
    intro other node
    have absent (place : Nat) : graph.names[place]? ≠ some name := fun there => by
      rw [← graph.indexed, new] at there
      cases there
    rw [List.getElem?_append]
    by_cases same : other = name
    · subst same
      rw [Catalogue.find?_insert_self]
      split
      next short => simp [absent, Nat.ne_of_gt short]
      next long => simp [List.getElem?_singleton]; omega
    · rw [Catalogue.find?_insert_other _ _ same, graph.indexed]
      split
      next => rfl
      next long => simp [List.getElem?_eq_none (Nat.le_of_not_lt long), List.getElem?_singleton, Ne.symm same]
  sized := by simp [graph.sized]
  bounded := by
    intro roles listed role found
    rcases List.mem_append.1 listed with old | new
    · rw [List.length_append]
      exact Nat.lt_add_right _ (graph.bounded roles old role found)
    · rw [List.mem_singleton.1 new] at found
      cases found
  distinct := by
    intro roles listed
    rcases List.mem_append.1 listed with old | new
    · exact graph.distinct roles old
    · rw [List.mem_singleton.1 new]
      exact .nil

/-- The node of a name, which gets its place now if it has none. -/
def intern (graph : RoleGraph) (name : String) : Nat × RoleGraph :=
  match known : graph.ids.find? name with
  | some node => (node, graph)
  | none => (graph.names.length, graph.push name known)

theorem intern_of_find? {graph : RoleGraph} {name : String} {node : Nat}
    (known : graph.ids.find? name = some node) : graph.intern name = (node, graph) := by
  unfold intern
  split
  next node' known' =>
    rw [known] at known'
    cases known'
    rfl
  next new =>
    rw [known] at new
    cases new

theorem intern_of_new {graph : RoleGraph} {name : String} (new : graph.ids.find? name = none) :
    graph.intern name = (graph.names.length, graph.push name new) := by
  unfold intern
  split
  next node known =>
    rw [new] at known
    cases known
  next => rfl

/-- A name has its node once it has its place. -/
theorem find?_intern_self (graph : RoleGraph) (name : String) :
    (graph.intern name).2.ids.find? name = some (graph.intern name).1 := by
  cases known : graph.ids.find? name with
  | some node => rw [intern_of_find? known, known]
  | none =>
    rw [intern_of_new known]
    exact Catalogue.find?_insert_self _ _ _

theorem lt_of_find? {graph : RoleGraph} {name : String} {node : Nat}
    (known : graph.ids.find? name = some node) : node < graph.names.length :=
  (List.getElem?_eq_some_iff.1 ((graph.indexed name node).1 known)).1

/-- Replaces the links of a node. -/
def withEdges (graph : RoleGraph) (node : Nat) (roles : List Nat)
    (bounded : ∀ role ∈ roles, role < graph.names.length) (distinct : roles.Nodup) : RoleGraph :=
  { graph with
    edges := graph.edges.set node roles
    sized := by rw [List.length_set, graph.sized]
    bounded := by
      intro others listed
      rcases List.mem_or_eq_of_mem_set listed with old | rfl
      · exact graph.bounded others old
      · exact bounded
    distinct := by
      intro others listed
      rcases List.mem_or_eq_of_mem_set listed with old | rfl
      · exact graph.distinct others old
      · exact distinct }

/-- Adds a link between nodes; the answer tells whether it is new. -/
def connect (graph : RoleGraph) (node role : Nat) (known : role < graph.names.length) : Bool × RoleGraph :=
  if new : role ∈ graph.edgesOf node then (false, graph)
  else
    (true, graph.withEdges node (graph.edgesOf node ++ [role])
      (by
        intro other listed
        rcases List.mem_append.1 listed with old | last
        · exact graph.edgesOf_bounded old
        · exact List.mem_singleton.1 last ▸ known)
      (by
        rw [List.nodup_append]
        refine ⟨graph.edgesOf_distinct node, by simp, ?_⟩
        intro other old last here same
        rw [List.mem_singleton.1 here] at same
        exact new (same ▸ old)))

/-- Removes a link between nodes; the answer tells whether there was one. -/
def disconnect (graph : RoleGraph) (node role : Nat) : Bool × RoleGraph :=
  let before := graph.edgesOf node
  let after := before.filter (· != role)
  (after.length != before.length, graph.withEdges node after
    (fun _ kept => graph.edgesOf_bounded (List.mem_filter.1 kept).1)
    ((graph.edgesOf_distinct node).sublist List.filter_sublist))

/-- Adds a link, the names of which get their places; the answer tells whether it is new. -/
def link (graph : RoleGraph) (member role : String) : Bool × RoleGraph :=
  let first := graph.intern member
  let second := first.2.intern role
  second.2.connect first.1 second.1 (lt_of_find? (first.2.find?_intern_self role))

/-- Removes a link; the answer tells whether there was one. -/
def unlink (graph : RoleGraph) (member role : String) : Bool × RoleGraph :=
  match graph.ids.find? member, graph.ids.find? role with
  | some node, some role => graph.disconnect node role
  | _, _ => (false, graph)

/-- A walk on its way: the links of the node that is being expanded that are still to be followed, whether
each node has been seen, and the nodes that wait to be expanded. -/
structure Walk where
  ahead : List Nat
  seen : List Bool
  waiting : List Nat

/-- The walk that starts from a node among so many. -/
def Walk.start (nodes node : Nat) : Walk where
  ahead := []
  seen := (List.replicate nodes false).set node true
  waiting := [node]

theorem Walk.count_set {seen : List Bool} {node : Nat} (unseen : ¬seen.getD node true = true) :
    (seen.set node true).count false < seen.count false := by
  induction seen generalizing node with
  | nil => exact absurd rfl unseen
  | cons first rest ih =>
    cases node with
    | zero =>
      obtain rfl : first = false := by simpa using unseen
      simp
    | succ node =>
      have unseen : ¬rest.getD node true = true := by simpa using unseen
      have fewer := ih unseen
      rw [List.set_cons_succ, List.count_cons, List.count_cons]
      exact Nat.add_lt_add_right fewer _

/-- Goes on with a walk, nearest nodes first, and calls `visit` for every node that is seen for the first time.
The walk ends early when `visit` says so, which is the answer. A node is expanded at most once, so that cycles
end. -/
def walkOn {σ : Type} (graph : RoleGraph) (start : Nat) (visit : Nat → σ → Bool × σ) (walk : Walk)
    (state : σ) : Bool × σ :=
  match walk with
  | ⟨[], _, []⟩ => (false, state)
  | ⟨[], seen, node :: waiting⟩ => graph.walkOn start visit ⟨graph.edgesOf node, seen, waiting⟩ state
  | ⟨next :: ahead, seen, waiting⟩ =>
    if next = start ∨ seen.getD next true = true then graph.walkOn start visit ⟨ahead, seen, waiting⟩ state
    else
      let (stop, state) := visit next state
      if stop then (true, state)
      else graph.walkOn start visit ⟨ahead, seen.set next true, waiting ++ [next]⟩ state
termination_by (walk.seen.count false, walk.waiting.length, walk.ahead.length)
decreasing_by
  · exact Prod.Lex.right _ (Prod.Lex.left _ _ (Nat.lt_succ_self _))
  · exact Prod.Lex.right _ (Prod.Lex.right _ (Nat.lt_succ_self _))
  · exact Prod.Lex.left _ _ (Walk.count_set (not_or.1 ‹¬(_ ∨ _)›).2)

/-- Walks from a node, calling `visit` for every other node that a path leads to. -/
def walk {σ : Type} (graph : RoleGraph) (start : Nat) (visit : Nat → σ → Bool × σ) (state : σ) : Bool × σ :=
  graph.walkOn start visit (.start graph.names.length start) state

/-- All roles that a name has through one or more links, itself left out, nearest first. -/
def allRolesOf (graph : RoleGraph) (name : String) : List String :=
  match graph.ids.find? name with
  | some node => (graph.walk node (fun role roles => (false, roles ++ [graph.nameOf role])) []).2
  | none => []

/-- Whether a name has a role through one or more links. The walk ends as soon as the role is found. -/
def reaches (graph : RoleGraph) (name role : String) : Bool :=
  match graph.ids.find? name, graph.ids.find? role with
  | some node, some role => (graph.walk node (fun other _ => (other == role, ())) ()).1
  | _, _ => false

/-- The direct roles of a name. -/
def rolesOf (graph : RoleGraph) (name : String) : List String :=
  match graph.ids.find? name with
  | some node => (graph.edgesOf node).map graph.nameOf
  | none => []

/-- The names linked to a role, in the order of the names. -/
def membersOf (graph : RoleGraph) (role : String) : List String :=
  match graph.ids.find? role with
  | some node => ((graph.names.zip graph.edges).filter (·.2.contains node)).map (·.1)
  | none => []

end RoleGraph

/-- The domain of links that name none. -/
def defaultDomain : String := ""

/-- A role relation: a graph for each domain that a link ever named. -/
structure RoleRelation where
  domains : Catalogue RoleGraph := .empty
deriving Inhabited

namespace RoleRelation

/-- The relation without links. -/
def empty : RoleRelation := {}

/-- The graph of a domain, which is without names if no link ever named the domain. -/
def graph (relation : RoleRelation) (domain? : Option String) : RoleGraph :=
  (relation.domains.find? (domain?.getD defaultDomain)).getD .empty

/-- Makes `member` a member of `role`; the answer tells whether the link is new. -/
def add (relation : RoleRelation) (member role : String) (domain? : Option String) :
    Bool × RoleRelation :=
  let (isNew, graph) := (relation.graph domain?).link member role
  (isNew, ⟨relation.domains.insert (domain?.getD defaultDomain) graph⟩)

/-- Takes the link back; the answer tells whether there was one. -/
def remove (relation : RoleRelation) (member role : String) (domain? : Option String) :
    Bool × RoleRelation :=
  match relation.domains.find? (domain?.getD defaultDomain) with
  | some graph =>
    let (removed, graph) := graph.unlink member role
    (removed, ⟨relation.domains.insert (domain?.getD defaultDomain) graph⟩)
  | none => (false, relation)

/-- Whether `role` is `name` itself or is reached from it by links of the domain. -/
def reaches (relation : RoleRelation) (name role : String) (domain? : Option String) : Bool :=
  name == role || (relation.graph domain?).reaches name role

/-- The direct and inherited roles of a name, nearest first. -/
def allRolesOf (relation : RoleRelation) (name : String) (domain? : Option String) : List String :=
  (relation.graph domain?).allRolesOf name

/-- The direct roles of a name, in the order of their links. -/
def rolesOf (relation : RoleRelation) (name : String) (domain? : Option String) : List String :=
  (relation.graph domain?).rolesOf name

def membersOf (relation : RoleRelation) (role : String) (domain? : Option String) : List String :=
  (relation.graph domain?).membersOf role

end RoleRelation
end AccessControl
