import AccessControl.Roles
import Mathlib.Data.List.Nodup
/-!
The direct links of a role relation, as its changes leave them. Adding a link adds just this link to
those of its domain, removing one takes just this one away, and no other domain notices either. Names
that stay behind in a graph are no links, and that links are kept between nodes does not show: the direct
roles of a name are told by their names.
-/
namespace AccessControl

namespace RoleGraph
variable {graph : RoleGraph} {name member role : String} {node next : Nat}

theorem nameOf_of_find? (known : graph.ids.find? name = some node) : graph.nameOf node = name := by
  rw [nameOf, List.getD_eq_getElem?_getD, (graph.indexed name node).1 known]
  rfl

theorem find?_nameOf (short : node < graph.names.length) :
    graph.ids.find? (graph.nameOf node) = some node := by
  rw [graph.indexed, nameOf, List.getD_eq_getElem?_getD, List.getElem?_eq_getElem short]
  rfl

/-- No two nodes have the same name. -/
theorem nameOf_inj (short : node < graph.names.length) (short' : next < graph.names.length)
    (same : graph.nameOf node = graph.nameOf next) : node = next := by
  have found := find?_nameOf short
  rw [same, find?_nameOf short'] at found
  exact (Option.some.inj found).symm

theorem mem_names_iff : name ∈ graph.names ↔ ∃ node, graph.ids.find? name = some node := by
  rw [List.mem_iff_getElem?]
  exact exists_congr fun node => (graph.indexed name node).symm

theorem nodup_names (graph : RoleGraph) : graph.names.Nodup := by
  rw [List.nodup_iff_getElem?_ne_getElem?]
  intro one other less short same
  obtain ⟨name, here⟩ := Option.isSome_iff_exists.1 (by simp [short] : (graph.names[other]?).isSome)
  have first := (graph.indexed name one).2 (same.trans here)
  have second := (graph.indexed name other).2 here
  rw [first] at second
  exact Nat.ne_of_lt less (Option.some.inj second)

theorem rolesOf_of_find? (known : graph.ids.find? name = some node) :
    graph.rolesOf name = (graph.edgesOf node).map graph.nameOf := by
  rw [rolesOf, known]

theorem rolesOf_of_new (new : graph.ids.find? name = none) : graph.rolesOf name = [] := by
  rw [rolesOf, new]

/-- The direct roles of a name are the names that its node has links to. -/
theorem mem_rolesOf_iff : role ∈ graph.rolesOf member ↔ ∃ node next,
    graph.ids.find? member = some node ∧ graph.ids.find? role = some next ∧ next ∈ graph.edgesOf node := by
  constructor
  · intro found
    cases known : graph.ids.find? member with
    | none =>
      rw [rolesOf_of_new known] at found
      cases found
    | some node =>
      rw [rolesOf_of_find? known] at found
      obtain ⟨next, linked, rfl⟩ := List.mem_map.1 found
      exact ⟨node, next, rfl, find?_nameOf (graph.edgesOf_bounded linked), linked⟩
  · rintro ⟨node, next, known, known', linked⟩
    rw [rolesOf_of_find? known]
    exact List.mem_map.2 ⟨next, linked, nameOf_of_find? known'⟩

theorem mem_rolesOf_of_find? (known : graph.ids.find? member = some node)
    (known' : graph.ids.find? role = some next) :
    role ∈ graph.rolesOf member ↔ next ∈ graph.edgesOf node := by
  simp [mem_rolesOf_iff, known, known']

theorem nodup_rolesOf (graph : RoleGraph) (name : String) : (graph.rolesOf name).Nodup := by
  cases known : graph.ids.find? name with
  | none =>
    rw [rolesOf_of_new known]
    exact .nil
  | some node =>
    rw [rolesOf_of_find? known]
    apply (graph.edgesOf_distinct node).map_on
    intro one here other there
    exact nameOf_inj (graph.edgesOf_bounded here) (graph.edgesOf_bounded there)

/-- Every role is among the names. -/
theorem mem_names_of_rolesOf (found : role ∈ graph.rolesOf member) : role ∈ graph.names := by
  obtain ⟨_, next, -, known, -⟩ := mem_rolesOf_iff.1 found
  exact mem_names_iff.2 ⟨next, known⟩

theorem find?_push (new : graph.ids.find? name = none) (other : String) :
    (graph.push name new).ids.find? other =
      if other = name then some graph.names.length else graph.ids.find? other := by
  by_cases same : other = name
  · rw [if_pos same, same]
    exact Catalogue.find?_insert_self _ _ _
  · rw [if_neg same]
    exact Catalogue.find?_insert_other _ _ same

/-- A name that gets its place has no roles, as before. -/
theorem rolesOf_push (new : graph.ids.find? name = none) (other : String) :
    (graph.push name new).rolesOf other = graph.rolesOf other := by
  have edges (node : Nat) : (graph.push name new).edgesOf node = graph.edgesOf node := by
    simp only [edgesOf, push, List.getD_eq_getElem?_getD, List.getElem?_append]
    split
    next => rfl
    next long =>
      rw [List.getElem?_eq_none (Nat.le_of_not_lt long), List.getElem?_singleton]
      split <;> rfl
  have names {node : Nat} (short : node < graph.names.length) :
      (graph.push name new).nameOf node = graph.nameOf node := by
    simp only [nameOf, push, List.getD_eq_getElem?_getD, List.getElem?_append_left short]
  have find := find?_push new other
  by_cases same : other = name
  · subst same
    rw [if_pos rfl] at find
    rw [rolesOf_of_find? find, rolesOf_of_new new, edges]
    have beyond : graph.edgesOf graph.names.length = [] := by
      rw [edgesOf, List.getD_eq_getElem?_getD, List.getElem?_eq_none (Nat.le_of_eq graph.sized)]
      rfl
    rw [beyond]
    rfl
  · rw [if_neg same] at find
    unfold rolesOf
    rw [find]
    cases graph.ids.find? other with
    | none => rfl
    | some node =>
      change ((graph.push name new).edgesOf node).map _ = (graph.edgesOf node).map _
      rw [edges]
      exact List.map_congr_left fun role linked => names (graph.edgesOf_bounded linked)

@[simp] theorem rolesOf_intern (graph : RoleGraph) (name other : String) :
    (graph.intern name).2.rolesOf other = graph.rolesOf other := by
  cases known : graph.ids.find? name with
  | some node => rw [intern_of_find? known]
  | none =>
    rw [intern_of_new known]
    exact rolesOf_push known other

/-- A name keeps its node when another one gets a place. -/
theorem find?_intern (known : graph.ids.find? member = some node) (name : String) :
    (graph.intern name).2.ids.find? member = some node := by
  cases found : graph.ids.find? name with
  | some _ => rwa [intern_of_find? found]
  | none =>
    have other : member ≠ name := by
      rintro rfl
      rw [found] at known
      cases known
    rw [intern_of_new found, find?_push, if_neg other]
    exact known

theorem rolesOf_withEdges (known : graph.ids.find? member = some node) (roles : List Nat)
    (bounded : ∀ role ∈ roles, role < graph.names.length) (distinct : roles.Nodup) (name : String) :
    (graph.withEdges node roles bounded distinct).rolesOf name =
      if name = member then roles.map graph.nameOf else graph.rolesOf name := by
  have short : node < graph.edges.length := graph.sized ▸ lt_of_find? known
  by_cases same : name = member
  · rw [if_pos same, same]
    have edges : (graph.withEdges node roles bounded distinct).edgesOf node = roles := by
      simp [edgesOf, withEdges, short]
    have found : (graph.withEdges node roles bounded distinct).ids.find? member = some node := known
    rw [rolesOf_of_find? found, edges]
    rfl
  · rw [if_neg same]
    cases found : graph.ids.find? name with
    | none =>
      have found' : (graph.withEdges node roles bounded distinct).ids.find? name = none := found
      rw [rolesOf_of_new found, rolesOf_of_new found']
    | some other =>
      have apart : node ≠ other := by
        rintro rfl
        exact same ((nameOf_of_find? found).symm.trans (nameOf_of_find? known))
      have edges : (graph.withEdges node roles bounded distinct).edgesOf other = graph.edgesOf other := by
        simp [edgesOf, withEdges, apart]
      have found' : (graph.withEdges node roles bounded distinct).ids.find? name = some other := found
      rw [rolesOf_of_find? found, rolesOf_of_find? found', edges]
      rfl

theorem connect_iff (graph : RoleGraph) (node next : Nat) (short : next < graph.names.length) :
    (graph.connect node next short).1 = true ↔ next ∉ graph.edgesOf node := by
  unfold connect
  split
  next present => simp [present]
  next absent => simp [absent]

/-- A new link puts the role after those that the member had. -/
theorem rolesOf_connect (known : graph.ids.find? member = some node)
    (known' : graph.ids.find? role = some next) (name : String) :
    (graph.connect node next (lt_of_find? known')).2.rolesOf name =
      if name = member ∧ role ∉ graph.rolesOf member then graph.rolesOf name ++ [role]
      else graph.rolesOf name := by
  have linked := mem_rolesOf_of_find? known known'
  unfold connect
  split
  next present => rw [if_neg fun new => new.2 (linked.2 present)]
  next absent =>
    rw [rolesOf_withEdges known, List.map_append, List.map_singleton, nameOf_of_find? known']
    by_cases same : name = member
    · rw [if_pos same, if_pos ⟨same, mt linked.1 absent⟩, same, rolesOf_of_find? known]
    · rw [if_neg same, if_neg fun new => same new.1]

theorem rolesOf_link (graph : RoleGraph) (member role name : String) :
    (graph.link member role).2.rolesOf name =
      if name = member ∧ role ∉ graph.rolesOf member then graph.rolesOf name ++ [role]
      else graph.rolesOf name := by
  have known := find?_intern (graph.find?_intern_self member) role
  have known' := (graph.intern member).2.find?_intern_self role
  have linked := rolesOf_connect known known' name
  simp only [rolesOf_intern] at linked
  exact linked

/-- Adding a link tells whether it is new. -/
theorem link_iff (graph : RoleGraph) (member role : String) :
    (graph.link member role).1 = true ↔ role ∉ graph.rolesOf member := by
  have known := find?_intern (graph.find?_intern_self member) role
  have known' := (graph.intern member).2.find?_intern_self role
  have linked := mem_rolesOf_of_find? known known'
  simp only [rolesOf_intern] at linked
  rw [linked]
  exact connect_iff _ _ _ (lt_of_find? known')

theorem disconnect_iff (graph : RoleGraph) (node next : Nat) :
    (graph.disconnect node next).1 = true ↔ next ∈ graph.edgesOf node := by
  simp [disconnect, List.length_filter_eq_length_iff]

theorem rolesOf_disconnect (known : graph.ids.find? member = some node)
    (known' : graph.ids.find? role = some next) (name : String) :
    (graph.disconnect node next).2.rolesOf name =
      if name = member then (graph.rolesOf name).filter (· != role) else graph.rolesOf name := by
  unfold disconnect
  rw [rolesOf_withEdges known]
  by_cases same : name = member
  · rw [if_pos same, if_pos same, same, rolesOf_of_find? known, List.filter_map]
    congr 1
    apply List.filter_congr
    intro other linked
    have apart : graph.nameOf other = role ↔ other = next := by
      rw [← nameOf_of_find? known']
      exact ⟨nameOf_inj (graph.edgesOf_bounded linked) (lt_of_find? known'), congrArg graph.nameOf⟩
    simp [bne, apart]
  · rw [if_neg same, if_neg same]

theorem rolesOf_unlink (graph : RoleGraph) (member role name : String) :
    (graph.unlink member role).2.rolesOf name =
      if name = member then (graph.rolesOf name).filter (· != role) else graph.rolesOf name := by
  -- Without nodes for both names there is no such link, and so nothing to filter out.
  have unchanged (absent : role ∉ graph.rolesOf member) : graph.rolesOf name =
      if name = member then (graph.rolesOf name).filter (· != role) else graph.rolesOf name := by
    split
    next same =>
      rw [List.filter_eq_self.2]
      intro other direct
      simpa using fun same' : other = role => absent (same' ▸ same ▸ direct)
    next => rfl
  unfold unlink
  cases known : graph.ids.find? member with
  | none => exact unchanged (by simp [mem_rolesOf_iff, known])
  | some node =>
    cases known' : graph.ids.find? role with
    | none => exact unchanged (by simp [mem_rolesOf_iff, known'])
    | some next => exact rolesOf_disconnect known known' name

/-- Removing a link tells whether there was one. -/
theorem unlink_iff (graph : RoleGraph) (member role : String) :
    (graph.unlink member role).1 = true ↔ role ∈ graph.rolesOf member := by
  unfold unlink
  cases known : graph.ids.find? member with
  | none => simp [mem_rolesOf_iff, known]
  | some node =>
    cases known' : graph.ids.find? role with
    | none => simp [mem_rolesOf_iff, known']
    | some next =>
      rw [mem_rolesOf_of_find? known known']
      exact graph.disconnect_iff node next

theorem mem_membersOf : name ∈ graph.membersOf role ↔ role ∈ graph.rolesOf name := by
  rw [mem_rolesOf_iff]
  unfold membersOf
  cases known : graph.ids.find? role with
  | none => simp
  | some next =>
    constructor
    · intro found
      obtain ⟨⟨_, roles⟩, inside, rfl⟩ := List.mem_map.1 found
      obtain ⟨listed, linked⟩ := List.mem_filter.1 inside
      obtain ⟨node, place⟩ := List.mem_iff_getElem?.1 listed
      obtain ⟨named, edges⟩ := List.getElem?_zip_eq_some.1 place
      refine ⟨node, next, (graph.indexed _ node).2 named, rfl, ?_⟩
      rw [edgesOf, List.getD_eq_getElem?_getD, edges]
      simpa using linked
    · rintro ⟨node, _, known', same, linked⟩
      cases same
      have short : node < graph.edges.length := graph.sized ▸ lt_of_find? known'
      have edges : graph.edges[node]? = some (graph.edgesOf node) := by
        simp [edgesOf, short]
      refine List.mem_map.2 ⟨(name, graph.edgesOf node), List.mem_filter.2 ⟨?_, by simpa using linked⟩, rfl⟩
      exact List.mem_iff_getElem?.2
        ⟨node, List.getElem?_zip_eq_some.2 ⟨(graph.indexed name node).1 known', edges⟩⟩

theorem nodup_membersOf (graph : RoleGraph) (role : String) : (graph.membersOf role).Nodup := by
  unfold membersOf
  cases graph.ids.find? role with
  | none => exact .nil
  | some node =>
    have whole : (graph.names.zip graph.edges).map (·.1) = graph.names :=
      List.map_fst_zip (Nat.le_of_eq graph.sized.symm)
    exact (whole ▸ graph.nodup_names).sublist (List.filter_sublist.map _)

end RoleGraph

namespace RoleRelation
variable {relation : RoleRelation} {member role : String} {domain? : Option String}

/-- The graph of a domain after the graph of a domain has been put into a relation. -/
theorem graph_insert (relation : RoleRelation) (domain : String) (graph : RoleGraph)
    (domain? : Option String) :
    RoleRelation.graph ⟨relation.domains.insert domain graph⟩ domain? =
      if domain?.getD defaultDomain = domain then graph else relation.graph domain? := by
  unfold RoleRelation.graph
  by_cases same : domain?.getD defaultDomain = domain
  · rw [if_pos same, same, Catalogue.find?_insert_self]
    rfl
  · rw [if_neg same, Catalogue.find?_insert_other _ _ same]

/-- A domain has one graph, however it is named. -/
theorem graph_congr {asked? : Option String}
    (same : asked?.getD defaultDomain = domain?.getD defaultDomain) :
    relation.graph asked? = relation.graph domain? := by
  rw [RoleRelation.graph, RoleRelation.graph, same]

@[simp] theorem rolesOf_empty (name : String) (domain? : Option String) :
    empty.rolesOf name domain? = [] := rfl

/-- Adding a link tells whether it is new. -/
theorem add_iff (relation : RoleRelation) (member role : String) (domain? : Option String) :
    (relation.add member role domain?).1 = true ↔ role ∉ relation.rolesOf member domain? :=
  (relation.graph domain?).link_iff member role

/-- A link that is added comes after the others of its member, unless it is there already. -/
theorem rolesOf_add (relation : RoleRelation) (member role : String) (domain? : Option String)
    (name : String) (asked? : Option String) :
    (relation.add member role domain?).2.rolesOf name asked? =
      if name = member ∧ asked?.getD defaultDomain = domain?.getD defaultDomain ∧
          role ∉ relation.rolesOf member domain? then
        relation.rolesOf name asked? ++ [role]
      else relation.rolesOf name asked? := by
  simp only [add, rolesOf, graph_insert]
  by_cases same : asked?.getD defaultDomain = domain?.getD defaultDomain
  · rw [if_pos same, RoleGraph.rolesOf_link, graph_congr same]
    simp [same]
  · simp [same]

theorem mem_rolesOf_add (relation : RoleRelation) (member role : String) (domain? : Option String)
    (name other : String) (asked? : Option String) :
    other ∈ (relation.add member role domain?).2.rolesOf name asked? ↔
      (name = member ∧ other = role ∧ asked?.getD defaultDomain = domain?.getD defaultDomain) ∨
        other ∈ relation.rolesOf name asked? := by
  rw [rolesOf_add]
  split
  next new => simp [new.1, new.2.1, or_comm]
  next old =>
    constructor
    · exact .inr
    · rintro (⟨rfl, rfl, same⟩ | found)
      · by_contra absent
        refine old ⟨rfl, same, fun present => absent ?_⟩
        rwa [rolesOf, graph_congr same]
      · exact found

/-- The links of a member in a domain after one has been removed. -/
theorem rolesOf_remove (relation : RoleRelation) (member role : String) (domain? : Option String)
    (name : String) (asked? : Option String) :
    (relation.remove member role domain?).2.rolesOf name asked? =
      if name = member ∧ asked?.getD defaultDomain = domain?.getD defaultDomain then
        (relation.rolesOf name asked?).filter (· != role)
      else relation.rolesOf name asked? := by
  unfold remove
  cases known : relation.domains.find? (domain?.getD defaultDomain) with
  | none =>
    -- A domain that has no graph has no links, and so nothing to filter out.
    change relation.rolesOf name asked? = _
    split
    next here =>
      have bare : relation.graph asked? = .empty := by
        rw [RoleRelation.graph, here.2, known]
        rfl
      rw [rolesOf, bare]
      rfl
    next => rfl
  | some graph =>
    have found : relation.graph domain? = graph := by
      rw [RoleRelation.graph, known]
      rfl
    simp only [rolesOf, graph_insert]
    by_cases same : asked?.getD defaultDomain = domain?.getD defaultDomain
    · rw [if_pos same, RoleGraph.rolesOf_unlink, graph_congr same, found]
      simp [same]
    · simp [same]

/-- Removing a link tells whether there was one. -/
theorem remove_iff (relation : RoleRelation) (member role : String) (domain? : Option String) :
    (relation.remove member role domain?).1 = true ↔ role ∈ relation.rolesOf member domain? := by
  unfold remove rolesOf RoleRelation.graph
  cases relation.domains.find? (domain?.getD defaultDomain) with
  | none => exact iff_of_false Bool.false_ne_true List.not_mem_nil
  | some graph => exact graph.unlink_iff member role

theorem mem_rolesOf_remove (relation : RoleRelation) (member role : String)
    (domain? : Option String) (name other : String) (asked? : Option String) :
    other ∈ (relation.remove member role domain?).2.rolesOf name asked? ↔
      ¬(name = member ∧ other = role ∧ asked?.getD defaultDomain = domain?.getD defaultDomain) ∧
        other ∈ relation.rolesOf name asked? := by
  rw [rolesOf_remove]
  split
  next here => simp [here.1, here.2, and_comm]
  next elsewhere =>
    refine (and_iff_right ?_).symm
    rintro ⟨rfl, -, same⟩
    exact elsewhere ⟨rfl, same⟩

theorem mem_membersOf {relation : RoleRelation} : member ∈ relation.membersOf role domain? ↔
    role ∈ relation.rolesOf member domain? := RoleGraph.mem_membersOf

theorem nodup_membersOf (relation : RoleRelation) (role : String) (domain? : Option String) :
    (relation.membersOf role domain?).Nodup := RoleGraph.nodup_membersOf _ role

end RoleRelation
end AccessControl
