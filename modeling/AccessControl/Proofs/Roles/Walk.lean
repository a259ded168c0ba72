import AccessControl.Proofs.Roles.Links
import AccessControl.Proofs.Roles.Search
/-!
Walks through a graph of roles. A walk calls for the nodes that a breadth-first search finds, one after
another, up to the one that it ends at, although it marks nodes one by one as seen and a search takes away all
that it finds at once. So the roles of a name are those that a search among the names themselves finds, and
in the same order. What a role relation answers depends on its direct links alone: a graph also remembers every
name that was ever linked, in the order of their first appearance, but only the order in which members are
listed is that of the names.
-/
namespace AccessControl

namespace RoleGraph
open Search
variable {graph : RoleGraph} {name : String} {start node : Nat} {seen : List Bool} {σ : Type}

/-- Calls `visit` for some nodes, one after another, up to the one that it ends at. -/
def visitAll (visit : Nat → σ → Bool × σ) : List Nat → σ → Bool × σ
  | [], state => (false, state)
  | node :: rest, state =>
    let (stop, state) := visit node state
    if stop then (true, state) else visitAll visit rest state

theorem visitAll_push (name : Nat → String) (nodes : List Nat) (names : List String) :
    visitAll (fun node names => (false, names ++ [name node])) nodes names =
      (false, names ++ nodes.map name) := by
  induction nodes generalizing names with
  | nil => simp [visitAll]
  | cons node rest ih => simp [visitAll, ih]

theorem visitAll_find (node : Nat) (nodes : List Nat) :
    visitAll (fun other _ => (other == node, ())) nodes () = (nodes.contains node, ()) := by
  induction nodes with
  | nil => rfl
  | cons other rest ih =>
    rw [visitAll, List.contains_cons, Bool.beq_comm]
    cases node == other with
    | false => simpa using ih
    | true => rfl

/-- The nodes that have not been seen. -/
def unseenOf (seen : List Bool) : List Nat :=
  (List.range seen.length).filter fun node => !seen.getD node true

theorem mem_unseenOf : node ∈ unseenOf seen ↔ ¬seen.getD node true = true := by
  unfold unseenOf
  rw [List.mem_filter, List.mem_range, Bool.not_eq_true', Bool.not_eq_true]
  refine and_iff_right_of_imp fun unseen => ?_
  by_contra long
  rw [List.getD_eq_getElem?_getD, List.getElem?_eq_none (Nat.le_of_not_lt long)] at unseen
  cases unseen

theorem getD_set (seen : List Bool) (node other : Nat) :
    (seen.set node true).getD other true = (decide (other = node) || seen.getD other true) := by
  rw [List.getD_eq_getElem?_getD, List.getD_eq_getElem?_getD, List.getElem?_set]
  by_cases same : node = other
  · rw [if_pos same]
    split <;> simp [same]
  · rw [if_neg same]
    simp [Ne.symm same]

/-- A node that is seen is taken away from the unseen ones. -/
theorem unseenOf_set (seen : List Bool) (node : Nat) :
    unseenOf (seen.set node true) = without (unseenOf seen) [node] := by
  unfold unseenOf without
  rw [List.length_set, List.filter_filter]
  apply List.filter_congr
  intro other _
  rw [getD_set, Bool.not_or]
  congr 1
  simp

/-- The nodes that a walk has still to call for: the unseen ones ahead, and then those that a search finds. -/
def Walk.remaining (graph : RoleGraph) (walk : Walk) : List Nat :=
  let found := walk.ahead.filter ((unseenOf walk.seen).contains ·)
  found ++ explore graph.edgesOf (without (unseenOf walk.seen) found) (walk.waiting ++ found)

theorem remaining_next (graph : RoleGraph) (seen : List Bool) (node : Nat) (waiting : List Nat) :
    Walk.remaining graph ⟨[], seen, node :: waiting⟩ =
      Walk.remaining graph ⟨graph.edgesOf node, seen, waiting⟩ := by
  unfold Walk.remaining
  rw [List.filter_nil, List.nil_append, List.append_nil, without_nil, explore]

theorem remaining_seen (graph : RoleGraph) {node : Nat} {seen : List Bool} (known : seen.getD node true = true)
    (ahead waiting : List Nat) : Walk.remaining graph ⟨node :: ahead, seen, waiting⟩ =
      Walk.remaining graph ⟨ahead, seen, waiting⟩ := by
  have old : ¬(unseenOf seen).contains node = true := by
    simpa using fun inside => mem_unseenOf.1 inside known
  unfold Walk.remaining
  rw [List.filter_cons_of_neg old]

/-- Links lead to distinct nodes, so that a node that is seen does not come again before the search goes on. -/
theorem remaining_new (graph : RoleGraph) {node : Nat} {seen : List Bool}
    (unseen : ¬seen.getD node true = true) {ahead : List Nat} (apart : node ∉ ahead) (waiting : List Nat) :
    Walk.remaining graph ⟨node :: ahead, seen, waiting⟩ =
      node :: Walk.remaining graph ⟨ahead, seen.set node true, waiting ++ [node]⟩ := by
  have new : (unseenOf seen).contains node = true := by simpa using mem_unseenOf.2 unseen
  have found : ahead.filter ((without (unseenOf seen) [node]).contains ·) =
      ahead.filter ((unseenOf seen).contains ·) := by
    apply List.filter_congr
    intro other inside
    have distinct : other ≠ node := fun same => apart (same ▸ inside)
    simp [mem_without, distinct]
  simp only [Walk.remaining]
  rw [List.filter_cons_of_pos new, unseenOf_set, found, without_cons, List.append_assoc]
  rfl

/-- Going on with a walk is to call for the remaining nodes. -/
theorem walkOn_eq (graph : RoleGraph) (visit : Nat → σ → Bool × σ) (walk : Walk) (state : σ)
    (distinct : walk.ahead.Nodup) (started : walk.seen.getD start true = true) :
    graph.walkOn start visit walk state = visitAll visit (walk.remaining graph) state := by
  fun_induction walkOn graph start visit walk state with
  | case1 state seen =>
    unfold Walk.remaining
    rw [List.filter_nil, List.nil_append, List.append_nil, explore, visitAll]
  | case2 state seen node waiting ih =>
    rw [remaining_next]
    exact ih (graph.edgesOf_distinct node) started
  | case3 state next ahead seen waiting known ih =>
    have old : seen.getD next true = true := by
      rcases known with rfl | known
      · exact started
      · exact known
    rw [remaining_seen graph old]
    exact ih (List.nodup_cons.1 distinct).2 started
  | case4 state next ahead seen waiting known after visited =>
    rw [remaining_new graph (not_or.1 known).2 (List.nodup_cons.1 distinct).1, visitAll, visited]
    rfl
  | case5 state next ahead seen waiting known stop after visited stopped ih =>
    rw [remaining_new graph (not_or.1 known).2 (List.nodup_cons.1 distinct).1, visitAll, visited]
    refine Eq.trans (ih (List.nodup_cons.1 distinct).2 ?_) (if_neg stopped).symm
    rw [getD_set, started, Bool.or_true]

/-- The nodes that a walk from a node calls for, each of them once. -/
def visited (graph : RoleGraph) (start : Nat) : List Nat :=
  explore graph.edgesOf ((List.range graph.names.length).filter (· != start)) [start]

theorem unseenOf_start (nodes start : Nat) :
    unseenOf (Walk.start nodes start).seen = (List.range nodes).filter (· != start) := by
  unfold unseenOf Walk.start
  rw [List.length_set, List.length_replicate]
  apply List.filter_congr
  intro node inside
  rw [getD_set, List.getD_eq_getElem?_getD, List.getElem?_replicate, if_pos (List.mem_range.1 inside),
    Option.getD_some, Bool.or_false]
  rfl

theorem walk_eq (graph : RoleGraph) (start : Nat) (visit : Nat → σ → Bool × σ) (state : σ) :
    graph.walk start visit state = visitAll visit (graph.visited start) state := by
  have started : (Walk.start graph.names.length start).seen.getD start true = true := by
    rw [Walk.start, getD_set]
    simp
  rw [walk, walkOn_eq graph visit _ state List.nodup_nil started, Walk.remaining, unseenOf_start]
  simp [Walk.start, visited]

theorem lt_of_visited (found : node ∈ graph.visited start) : node < graph.names.length := by
  have inside := mem_unseen_of_explore found
  exact List.mem_range.1 (List.mem_filter.1 inside).1

/-- A search among the names goes as one among their nodes does. -/
theorem explore_names (known : graph.ids.find? name = some node) :
    explore graph.rolesOf (graph.names.filter (· != name)) [name] =
      (graph.visited node).map graph.nameOf := by
  have along (node : Nat) (short : node < graph.names.length) :
      graph.rolesOf (graph.nameOf node) = (graph.edgesOf node).map graph.nameOf :=
    rolesOf_of_find? (find?_nameOf short)
  have agree (from' other : Nat) (linked : other ∈ graph.edgesOf from') :
      graph.nameOf other ∈ graph.names.filter (· != name) ↔
        other ∈ (List.range graph.names.length).filter (· != node) := by
    have short := graph.edgesOf_bounded linked
    have apart : graph.nameOf other = name ↔ other = node := by
      rw [← nameOf_of_find? known]
      exact ⟨nameOf_inj short (lt_of_find? known), congrArg graph.nameOf⟩
    have listed : graph.nameOf other ∈ graph.names := mem_names_iff.2 ⟨other, find?_nameOf short⟩
    simp [List.mem_filter, listed, short, apart]
  have carried := explore_map (fun _ _ => graph.edgesOf_bounded) along (fun _ _ => nameOf_inj)
    (by simpa using lt_of_find? known : ∀ other ∈ [node], other < graph.names.length) agree
  rwa [List.map_singleton, nameOf_of_find? known] at carried

/-- The roles of a name are what a search among the names finds, in the same order. -/
theorem allRolesOf_eq (graph : RoleGraph) (name : String) :
    graph.allRolesOf name = explore graph.rolesOf (graph.names.filter (· != name)) [name] := by
  unfold allRolesOf
  cases known : graph.ids.find? name with
  | none =>
    rw [explore, rolesOf_of_new known, List.filter_nil, List.nil_append, List.nil_append, explore]
  | some node =>
    rw [explore_names known]
    simp only [walk_eq, visitAll_push, List.nil_append]

/-- A role is reached if it is among all roles of a name. -/
theorem reaches_eq (graph : RoleGraph) (name role : String) :
    graph.reaches name role = (graph.allRolesOf name).contains role := by
  have listed : role ∈ graph.allRolesOf name → ∃ next, graph.ids.find? role = some next := by
    rw [allRolesOf_eq, ← mem_names_iff]
    exact fun found => (List.mem_filter.1 (mem_unseen_of_explore found)).1
  rw [Bool.eq_iff_iff, List.contains_iff_mem]
  unfold reaches
  cases known : graph.ids.find? name with
  | none => simp [allRolesOf, known]
  | some node =>
    cases known' : graph.ids.find? role with
    | none => simpa [known'] using mt listed
    | some next =>
      simp only [walk_eq, visitAll_find]
      rw [allRolesOf_eq, explore_names known, List.contains_iff_mem, List.mem_map]
      constructor
      · exact fun found => ⟨next, found, nameOf_of_find? known'⟩
      · rintro ⟨other, found, named⟩
        rw [← nameOf_of_find? known'] at named
        exact nameOf_inj (lt_of_visited found) (lt_of_find? known') named ▸ found

section Answers
variable {one other : RoleGraph} (same : ∀ name, one.rolesOf name = other.rolesOf name)
include same

theorem allRolesOf_congr (name : String) : one.allRolesOf name = other.allRolesOf name := by
  have direct : one.rolesOf = other.rolesOf := funext same
  rw [allRolesOf_eq, allRolesOf_eq, ← direct]
  apply Search.explore_congr
  intro member role linked
  have here : role ∈ one.names := mem_names_of_rolesOf linked
  have there : role ∈ other.names := mem_names_of_rolesOf (same member ▸ linked)
  simp [here, there]

theorem membersOf_perm (role : String) : (one.membersOf role).Perm (other.membersOf role) := by
  rw [List.perm_ext_iff_of_nodup (nodup_membersOf one role) (nodup_membersOf other role)]
  intro name
  rw [mem_membersOf, mem_membersOf, same]

end Answers
end RoleGraph

namespace RoleRelation
variable {one other : RoleRelation}
  (same : ∀ name domain?, one.rolesOf name domain? = other.rolesOf name domain?)
include same

theorem allRolesOf_congr (name : String) (domain? : Option String) :
    one.allRolesOf name domain? = other.allRolesOf name domain? :=
  RoleGraph.allRolesOf_congr (fun name => same name domain?) name

theorem reaches_congr (name role : String) (domain? : Option String) :
    one.reaches name role domain? = other.reaches name role domain? := by
  have found := allRolesOf_congr same name domain?
  unfold allRolesOf at found
  unfold reaches
  rw [RoleGraph.reaches_eq, RoleGraph.reaches_eq, found]

theorem membersOf_perm (role : String) (domain? : Option String) :
    (one.membersOf role domain?).Perm (other.membersOf role domain?) :=
  RoleGraph.membersOf_perm (fun name => same name domain?) role

end RoleRelation
end AccessControl
