import Mathlib.Data.List.Nodup
import Mathlib.Logic.Relation
import Mathlib.Order.Lattice.Nat
/-!
Breadth-first search in a graph of any nodes. The search works on a queue and takes a node away from those
unseen when it is found, so that no node is found twice and cycles end. It finds the nodes that paths lead to
and no others, each of them once, and in the order of their distance: while nodes of one distance are
expanded, those that are found are one step farther away, and they come to the end of the queue.
-/
namespace AccessControl.Search
variable {α : Type} [DecidableEq α] {next : α → List α}

/-- The nodes that are not among `others`. -/
def without (nodes others : List α) : List α := nodes.filter (!others.contains ·)

theorem mem_without {nodes others : List α} {node : α} :
    node ∈ without nodes others ↔ node ∈ nodes ∧ node ∉ others := by
  simp [without]

@[simp] theorem without_nil (nodes : List α) : without nodes [] = nodes := by
  simp [without]

theorem without_cons (nodes others : List α) (node : α) :
    without nodes (node :: others) = without (without nodes [node]) others := by
  unfold without
  rw [List.filter_filter]
  apply List.filter_congr
  intro other _
  simp [Bool.and_comm]

/-- Taking away nodes that were there leaves fewer, unless none is taken away. -/
theorem length_without (nodes others : List α) (listed : ∀ other ∈ others, other ∈ nodes) :
    (without nodes others).length < nodes.length ∨
      ((without nodes others).length = nodes.length ∧ others = []) := by
  rcases Nat.lt_or_eq_of_le (List.length_filter_le (!others.contains ·) nodes) with fewer | same
  · exact .inl fewer
  · have kept : ∀ node ∈ nodes, others.contains node = false := by
      simpa using List.length_filter_eq_length_iff.1 same
    refine .inr ⟨same, List.eq_nil_iff_forall_not_mem.2 fun other here => ?_⟩
    simpa [here] using kept other (listed other here)

/-- What a search has still to do shrinks when it expands a node: nodes are found for the first time, or the
queue gets shorter. -/
theorem search_shrinks (unseen nodes queue : List α) :
    Prod.Lex (· < ·) (· < ·)
      ((without unseen (nodes.filter (unseen.contains ·))).length,
        (queue ++ nodes.filter (unseen.contains ·)).length)
      (unseen.length, queue.length + 1) := by
  rcases length_without unseen (nodes.filter (unseen.contains ·)) (by simp) with fewer | ⟨same, none⟩
  · exact Prod.Lex.left _ _ fewer
  · rw [same]
    exact Prod.Lex.right _ (by rw [none, List.append_nil]; exact Nat.lt_succ_self _)

/-- The nodes of `unseen` that are reached from the nodes of `queue`, nearest first. -/
def explore (next : α → List α) (unseen queue : List α) : List α :=
  match queue with
  | [] => []
  | node :: queue =>
    let found := (next node).filter (unseen.contains ·)
    found ++ explore next (without unseen found) (queue ++ found)
termination_by (unseen.length, queue.length)
decreasing_by exact search_shrinks unseen (next node) queue

/-! What is found. -/

/-- A link that leads to an unseen node. -/
def LinkInto (next : α → List α) (unseen : List α) (node other : α) : Prop :=
  other ∈ next node ∧ other ∈ unseen

omit [DecidableEq α] in
theorem linkInto_mono {unseen wider : List α} (inside : ∀ node ∈ unseen, node ∈ wider) :
    LinkInto next unseen ≤ LinkInto next wider := by
  intro node other link
  exact ⟨link.1, inside other link.2⟩

/-- A path either avoids some nodes, or what it leads to is one of them, or is reached from the last of
them on it. -/
theorem path_cases {unseen : List α} {node last : α}
    (path : Relation.TransGen (LinkInto next unseen) node last) (found : List α) :
    last ∈ found ∨ ∃ start, (start = node ∨ start ∈ found) ∧
      Relation.TransGen (LinkInto next (without unseen found)) start last := by
  induction path with
  | @single last link =>
    by_cases known : last ∈ found
    · exact .inl known
    · exact .inr ⟨node, .inl rfl, .single ⟨link.1, mem_without.2 ⟨link.2, known⟩⟩⟩
  | @tail middle last _ link ih =>
    by_cases known : last ∈ found
    · exact .inl known
    · have step : LinkInto next (without unseen found) middle last :=
        ⟨link.1, mem_without.2 ⟨link.2, known⟩⟩
      rcases ih with here | ⟨start, origin, before⟩
      · exact .inr ⟨middle, .inr here, .single step⟩
      · exact .inr ⟨start, origin, before.tail step⟩

/-- A search finds what paths through unseen nodes lead to. -/
theorem mem_explore_iff {unseen queue : List α} {last : α} :
    last ∈ explore next unseen queue ↔
      ∃ node ∈ queue, Relation.TransGen (LinkInto next unseen) node last := by
  fun_induction explore next unseen queue with
  | case1 unseen => simp
  | case2 unseen node queue found ih =>
    have into {other : α} : other ∈ found ↔ LinkInto next unseen node other := by
      simp [found, LinkInto]
    rw [List.mem_append, ih]
    constructor
    · rintro (here | ⟨start, queued, path⟩)
      · exact ⟨node, List.mem_cons_self, .single (into.1 here)⟩
      · have wider : Relation.TransGen (LinkInto next unseen) start last :=
          Relation.TransGen.mono (linkInto_mono fun _ inside => (mem_without.1 inside).1) _ _ path
        rcases List.mem_append.1 queued with old | new
        · exact ⟨start, List.mem_cons_of_mem _ old, wider⟩
        · exact ⟨node, List.mem_cons_self, .head (into.1 new) wider⟩
    · rintro ⟨first, queued, path⟩
      rcases path_cases path found with here | ⟨start, rfl | known, later⟩
      · exact .inl here
      · rcases List.mem_cons.1 queued with rfl | old
        · -- The first link of a path from here leads to a node that has just been found.
          obtain ⟨other, link, -⟩ := Relation.TransGen.head'_iff.1 later
          obtain ⟨unfound, absent⟩ := mem_without.1 link.2
          exact absurd (into.2 ⟨link.1, unfound⟩) absent
        · exact .inr ⟨start, List.mem_append_left _ old, later⟩
      · exact .inr ⟨start, List.mem_append_right _ known, later⟩

theorem mem_unseen_of_explore {unseen queue : List α} {node : α}
    (found : node ∈ explore next unseen queue) : node ∈ unseen := by
  obtain ⟨_, -, path⟩ := mem_explore_iff.1 found
  obtain ⟨_, -, link⟩ := Relation.TransGen.tail'_iff.1 path
  exact link.2

/-- No node is found twice. -/
theorem nodup_explore (distinct : ∀ node, (next node).Nodup) (unseen queue : List α) :
    (explore next unseen queue).Nodup := by
  fun_induction explore next unseen queue with
  | case1 unseen => exact .nil
  | case2 unseen node queue found ih =>
    refine ((distinct node).filter _).append ih ?_
    intro other here later
    exact (mem_without.1 (mem_unseen_of_explore later)).2 here

/-- A search that is carried over to other nodes finds the nodes that the found ones are carried to. -/
theorem explore_map {β : Type} [DecidableEq β] {carry : α → β} {next' : β → List β} {known : α → Prop}
    (closed : ∀ node, ∀ other ∈ next node, known other)
    (along : ∀ node, known node → next' (carry node) = (next node).map carry)
    (apart : ∀ node other, known node → known other → carry node = carry other → node = other)
    {unseen queue : List α} {unseen' : List β} (queued : ∀ node ∈ queue, known node)
    (agree : ∀ node, ∀ other ∈ next node, carry other ∈ unseen' ↔ other ∈ unseen) :
    explore next' unseen' (queue.map carry) = (explore next unseen queue).map carry := by
  fun_induction explore next unseen queue generalizing unseen'
  case case1 unseen => rw [List.map_nil, explore]
  case case2 unseen node queue found ih =>
    have here : known node := queued node List.mem_cons_self
    have carried : (next' (carry node)).filter (unseen'.contains ·) = found.map carry := by
      rw [along node here, List.filter_map]
      congr 1
      apply List.filter_congr
      intro other linked
      simp [agree node other linked]
    rw [List.map_cons, explore, carried, List.map_append]
    congr 1
    rw [← List.map_append]
    apply ih
    · intro other inside
      rcases List.mem_append.1 inside with old | new
      · exact queued other (List.mem_cons_of_mem _ old)
      · exact closed node other (List.mem_filter.1 new).1
    · intro from' other linked
      rw [mem_without, mem_without, agree from' other linked, List.mem_map]
      refine and_congr_right fun _ => not_congr ⟨?_, fun inside => ⟨other, inside, rfl⟩⟩
      rintro ⟨one, inside, same⟩
      exact apart one other (closed node one (List.mem_filter.1 inside).1)
        (closed from' other linked) same ▸ inside

/-- Only which nodes are unseen counts, and only those that links lead to. -/
theorem explore_congr {unseen unseen' queue : List α}
    (agree : ∀ node, ∀ other ∈ next node, other ∈ unseen' ↔ other ∈ unseen) :
    explore next unseen' queue = explore next unseen queue := by
  have closed : ∀ node, ∀ other ∈ next node, True := fun _ _ _ => trivial
  have carried : explore next unseen' (queue.map id) = (explore next unseen queue).map id :=
    explore_map closed (fun node _ => (List.map_id (next node)).symm) (fun _ _ _ _ same => same)
      (fun _ _ => trivial) agree
  rwa [List.map_id, List.map_id] at carried

/-! The order in which it is found. -/

omit [DecidableEq α]

/-- A walk of so many links from one node to another. -/
inductive Steps (link : α → α → Prop) (start : α) : Nat → α → Prop
  | zero : Steps link start 0 start
  | step {count : Nat} {node other : α} (steps : Steps link start count node) (linked : link node other) :
    Steps link start (count + 1) other

/-- The length of a shortest walk from one node to another, if there is any. -/
noncomputable def distance (link : α → α → Prop) (start node : α) : Nat :=
  sInf {count | Steps link start count node}

section
variable {link : α → α → Prop} {start node other : α} {count : Nat}

theorem exists_steps_iff : (∃ count, Steps link start count node) ↔ Relation.ReflTransGen link start node := by
  constructor
  · rintro ⟨count, steps⟩
    induction steps with
    | zero => exact .refl
    | step _ linked ih => exact ih.tail linked
  · intro path
    induction path with
    | refl => exact ⟨0, .zero⟩
    | tail _ linked ih =>
      obtain ⟨count, steps⟩ := ih
      exact ⟨count + 1, steps.step linked⟩

/-- There is a walk to a node, and so many links are the fewest of one. -/
def At (link : α → α → Prop) (start : α) (count : Nat) (node : α) : Prop :=
  IsLeast {count | Steps link start count node} count

theorem At.distance_eq (here : At link start count node) : distance link start node = count :=
  IsLeast.csInf_eq here

theorem At.unique {count' : Nat} (here : At link start count node) (here' : At link start count' node) :
    count = count' := IsLeast.unique here here'

theorem exists_at (path : Relation.ReflTransGen link start node) : ∃ count, At link start count node := by
  obtain ⟨count, steps⟩ := exists_steps_iff.2 path
  exact ⟨_, Nat.sInf_mem ⟨count, steps⟩, fun _ fewer => Nat.sInf_le fewer⟩

theorem at_zero_iff : At link start 0 node ↔ node = start := by
  constructor
  · rintro ⟨steps, -⟩
    cases steps
    rfl
  · rintro rfl
    exact ⟨.zero, fun _ _ => Nat.zero_le _⟩

/-- The last link on a shortest walk comes from a node that is one link nearer. -/
theorem At.exists_before (here : At link start (count + 1) node) :
    ∃ before, At link start count before ∧ link before node := by
  obtain ⟨steps, least⟩ := here
  cases steps with
  | @step _ before _ steps linked =>
    refine ⟨before, ⟨steps, fun fewer steps' => ?_⟩, linked⟩
    exact Nat.le_of_succ_le_succ (least (Steps.step steps' linked))

theorem At.le_of_link {count' : Nat} (here : At link start count node) (linked : link node other)
    (there : At link start count' other) : count' ≤ count + 1 :=
  there.2 (Steps.step here.1 linked)

end

/-- That there is a link to a node. -/
def Link (next : α → List α) (node other : α) : Prop := other ∈ next node

/-- Where a search stands when the nodes at one distance are being expanded: those of `now` are still to be
expanded, and those of `later` have been found meanwhile. -/
structure Level (next : α → List α) (start : α) (unseen now later : List α) (count : Nat) : Prop where
  expanding : ∀ node ∈ now, At (Link next) start count node
  found : ∀ node ∈ later, At (Link next) start (count + 1) node
  near : ∀ count' node, At (Link next) start count' node → count' ≤ count → node ∉ unseen
  following : ∀ node, At (Link next) start (count + 1) node →
    (node ∈ later ∧ node ∉ unseen) ∨ (node ∈ unseen ∧ ∃ before ∈ now, Link next before node)
  far : ∀ count' node, At (Link next) start count' node → count + 2 ≤ count' → node ∈ unseen

namespace Level
variable {start node : α} {unseen now later : List α} {count : Nat}

/-- A search starts with one node, and all others that paths lead to are unseen. -/
theorem first (seen : start ∉ unseen) (others : ∀ node, node ≠ start →
    Relation.ReflTransGen (Link next) start node → node ∈ unseen) :
    Level next start unseen [start] [] 0 := by
  have beyond {count : Nat} {node : α} (there : At (Link next) start count node)
      (positive : 0 < count) : node ∈ unseen := by
    refine others node ?_ (exists_steps_iff.1 ⟨count, there.1⟩)
    rintro rfl
    exact Nat.ne_of_gt positive (there.unique (at_zero_iff.2 rfl))
  refine ⟨?_, by simp, ?_, ?_, fun count' node there far => beyond there (by omega)⟩
  · intro node here
    exact at_zero_iff.2 (List.mem_singleton.1 here)
  · intro count' node there near
    obtain rfl := Nat.le_zero.1 near
    rwa [at_zero_iff.1 there]
  · intro node there
    obtain ⟨before, here, linked⟩ := there.exists_before
    exact .inr ⟨beyond there Nat.one_pos, before, by rw [at_zero_iff.1 here]; simp, linked⟩

/-- When all nodes at one distance have been expanded, all nodes one link farther have been found. -/
theorem shift (level : Level next start unseen [] later count) :
    Level next start unseen later [] (count + 1) := by
  have found {node : α} (there : At (Link next) start (count + 1) node) : node ∈ later ∧ node ∉ unseen := by
    rcases level.following node there with here | ⟨-, _, none, -⟩
    · exact here
    · cases none
  refine ⟨level.found, by simp, ?_, ?_, fun count' node there far => level.far count' node there (by omega)⟩
  · intro count' node there near
    rcases Nat.lt_or_eq_of_le near with nearer | rfl
    · exact level.near count' node there (Nat.le_of_lt_succ nearer)
    · exact (found there).2
  · intro node there
    obtain ⟨before, here, linked⟩ := there.exists_before
    exact .inr ⟨level.far _ node there le_rfl, before, (found here).1, linked⟩

/-- The next node to be expanded is one of those at the present distance, or the search comes to the nodes one
link farther. -/
theorem exists_cons {queue : List α} (level : Level next start unseen now later count)
    (split : node :: queue = now ++ later) : ∃ now' later' count', count ≤ count' ∧
      queue = now' ++ later' ∧ Level next start unseen (node :: now') later' count' := by
  cases now with
  | nil =>
    rw [List.nil_append] at split
    subst split
    exact ⟨queue, [], count + 1, Nat.le_succ _, (List.append_nil queue).symm, level.shift⟩
  | cons first now =>
    cases split
    exact ⟨now, later, count, le_rfl, rfl, level⟩

variable [DecidableEq α]

/-- The unseen nodes that a node at one distance has links to are one link farther. -/
theorem at_found (level : Level next start unseen (node :: now) later count) {other : α}
    (found : other ∈ (next node).filter (unseen.contains ·)) : At (Link next) start (count + 1) other := by
  obtain ⟨linked, new⟩ := List.mem_filter.1 found
  have here := level.expanding node List.mem_cons_self
  have path := (exists_steps_iff.1 ⟨count, here.1⟩).tail (c := other) linked
  obtain ⟨count', there⟩ := exists_at path
  have atMost := here.le_of_link linked there
  rcases Nat.lt_or_eq_of_le atMost with nearer | rfl
  · exact absurd (by simpa using new) (level.near count' other there (Nat.le_of_lt_succ nearer))
  · exact there

/-- A node is expanded: what it finds comes to the end of the queue and is unseen no longer. -/
theorem expand (level : Level next start unseen (node :: now) later count) :
    Level next start (without unseen ((next node).filter (unseen.contains ·))) now
      (later ++ (next node).filter (unseen.contains ·)) count := by
  refine ⟨fun other here => level.expanding other (List.mem_cons_of_mem _ here), ?_, ?_, ?_, ?_⟩
  · intro other here
    rcases List.mem_append.1 here with old | new
    · exact level.found other old
    · exact level.at_found new
  · intro count' other there near inside
    exact level.near count' other there near (mem_without.1 inside).1
  · intro other there
    by_cases new : other ∈ (next node).filter (unseen.contains ·)
    · exact .inl ⟨List.mem_append_right _ new, fun inside => (mem_without.1 inside).2 new⟩
    · rcases level.following other there with ⟨old, seen⟩ | ⟨inside, before, here, linked⟩
      · exact .inl ⟨List.mem_append_left _ old, fun inside => seen (mem_without.1 inside).1⟩
      · rcases List.mem_cons.1 here with rfl | rest
        · exact absurd (List.mem_filter.2 ⟨linked, by simpa using inside⟩) new
        · exact .inr ⟨mem_without.2 ⟨inside, new⟩, before, rest, linked⟩
  · intro count' other there far
    refine mem_without.2 ⟨level.far count' other there far, fun new => ?_⟩
    have same := there.unique (level.at_found new)
    omega

/-- What a search finds is farther away than what it expands, and the nearer of two nodes comes first. -/
theorem ordered_explore {queue : List α} (level : Level next start unseen now later count)
    (split : queue = now ++ later) :
    (∀ node ∈ explore next unseen queue, count < distance (Link next) start node) ∧
      (explore next unseen queue).Pairwise fun one other =>
        distance (Link next) start one ≤ distance (Link next) start other := by
  fun_induction explore next unseen queue generalizing now later count
  case case1 unseen => exact ⟨fun _ none => absurd none List.not_mem_nil, .nil⟩
  case case2 unseen node queue found ih =>
    obtain ⟨now', later', count', atLeast, split', level'⟩ := level.exists_cons split
    obtain ⟨farther, ordered⟩ := ih level'.expand (by rw [split', List.append_assoc])
    have placed {other : α} (here : other ∈ found) : distance (Link next) start other = count' + 1 :=
      (level'.at_found here).distance_eq
    constructor
    · intro other inside
      rcases List.mem_append.1 inside with here | there
      · rw [placed here]
        omega
      · have far := farther other there
        omega
    · refine List.pairwise_append.2 ⟨?_, ordered, ?_⟩
      · refine List.Pairwise.imp_of_mem (R := fun _ _ => True) ?_ (List.pairwise_of_forall fun _ _ => trivial)
        intro one other here there _
        rw [placed here, placed there]
      · intro one here other there
        rw [placed here]
        exact farther other there

end Level

/-- A search from one node finds the nearer nodes first. -/
theorem pairwise_explore [DecidableEq α] {unseen : List α} {start : α} (seen : start ∉ unseen)
    (others : ∀ node, node ≠ start → Relation.ReflTransGen (Link next) start node → node ∈ unseen) :
    (explore next unseen [start]).Pairwise fun one other =>
      distance (Link next) start one ≤ distance (Link next) start other :=
  ((Level.first seen others).ordered_explore rfl).2

end AccessControl.Search
