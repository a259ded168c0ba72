import AccessControl.Proofs.Roles.Reachability
/-!
What a role relation has become after any edits. The links that stand are those that were added and have not
been removed since, and everything that the relation answers is told by them: whether an edit changes
anything, the direct roles and members of a name, and which roles paths of standing links lead to. Names
without links stay in the graphs, and a role that was removed and added again has a place among the names
that is older than its link; neither shows in an answer.
-/
namespace AccessControl

/-- A link in a domain. -/
structure RoleLink where
  member : String
  role : String
  domain : String

namespace RoleRelation

/-- What can be done to a relation. -/
inductive Edit
  | add (member role : String) (domain? : Option String)
  | remove (member role : String) (domain? : Option String)

/-- The link that an edit is to add. -/
def Edit.added? : Edit → Option RoleLink
  | add member role domain? => some ⟨member, role, domain?.getD defaultDomain⟩
  | remove .. => none

/-- The link that an edit is to remove. -/
def Edit.removed? : Edit → Option RoleLink
  | add .. => none
  | remove member role domain? => some ⟨member, role, domain?.getD defaultDomain⟩

/-- Does an edit; the answer tells whether it changes anything. -/
def edit (relation : RoleRelation) : Edit → Bool × RoleRelation
  | .add member role domain? => relation.add member role domain?
  | .remove member role domain? => relation.remove member role domain?

/-- What some edits make of the relation without links. -/
def edited (edits : List Edit) : RoleRelation :=
  edits.foldl (fun relation edit => (relation.edit edit).2) empty

/-- None of the edits removes the link. -/
def Spares (edits : List Edit) (link : RoleLink) : Prop := ∀ edit ∈ edits, edit.removed? ≠ some link

/-- A link was added by one of the edits and by none after it removed. -/
def Stands (edits : List Edit) (link : RoleLink) : Prop :=
  ∃ before edit after, edits = before ++ edit :: after ∧ edit.added? = some link ∧ Spares after link

/-- A link was added by the edit at some place, when it did not stand, and has stood since then. -/
def StandsFrom (edits : List Edit) (link : RoleLink) (place : Nat) : Prop :=
  ∃ before edit after, edits = before ++ edit :: after ∧ before.length = place ∧
    edit.added? = some link ∧ ¬Stands before link ∧ Spares after link

/-- Both links stand, and the one for longer than the other. -/
def StandsLonger (edits : List Edit) (one other : RoleLink) : Prop :=
  ∃ place place', StandsFrom edits one place ∧ StandsFrom edits other place' ∧ place < place'

/-- A link from a member to its role in a domain stands after some edits. -/
def StandsIn (edits : List Edit) (domain? : Option String) (member role : String) : Prop :=
  Stands edits ⟨member, role, domain?.getD defaultDomain⟩

section
variable {edits : List Edit} {edit : Edit} {link : RoleLink} {place : Nat}

theorem Edit.removed?_of_added? (added : edit.added? = some link) : edit.removed? = none := by
  cases edit with
  | add => rfl
  | remove => cases added

theorem spares_concat : Spares (edits ++ [edit]) link ↔
    Spares edits link ∧ edit.removed? ≠ some link := by
  simp [Spares, or_imp, forall_and]

/-- The edit that is done last is the one looked for, or it is the last of those after that one. -/
theorem concat_eq_iff {before after : List Edit} {one : Edit} :
    edits ++ [edit] = before ++ one :: after ↔ (edits = before ∧ edit = one ∧ after = []) ∨
      ∃ after', edits = before ++ one :: after' ∧ after = after' ++ [edit] := by
  rcases List.eq_nil_or_concat' after with rfl | ⟨after', last, rfl⟩
  · simp
  · rw [← List.cons_append, ← List.append_assoc, List.append_singleton_inj]
    constructor
    · rintro ⟨same, rfl⟩
      exact .inr ⟨after', same, rfl⟩
    · rintro (⟨-, -, none⟩ | ⟨_, same, same'⟩)
      · exact absurd none (List.append_ne_nil_of_right_ne_nil _ (List.cons_ne_nil _ _))
      · obtain ⟨rfl, rfl⟩ := List.append_singleton_inj.1 same'
        exact ⟨same, rfl⟩

theorem not_stands_nil : ¬Stands [] link := by
  simp [Stands]

/-- One more edit adds a link, or leaves alone one that stands. -/
theorem stands_concat : Stands (edits ++ [edit]) link ↔
    edit.added? = some link ∨ (Stands edits link ∧ edit.removed? ≠ some link) := by
  constructor
  · rintro ⟨before, one, after, split, added, spared⟩
    rcases concat_eq_iff.1 split with ⟨-, rfl, -⟩ | ⟨after', split', rfl⟩
    · exact .inl added
    · obtain ⟨spared, stays⟩ := spares_concat.1 spared
      exact .inr ⟨⟨before, one, after', split', added, spared⟩, stays⟩
  · rintro (added | ⟨⟨before, one, after, rfl, added, spared⟩, stays⟩)
    · exact ⟨edits, edit, [], rfl, added, by simp [Spares]⟩
    · exact ⟨before, one, after ++ [edit], by simp, added, spares_concat.2 ⟨spared, stays⟩⟩

theorem standsFrom_concat : StandsFrom (edits ++ [edit]) link place ↔
    (place = edits.length ∧ edit.added? = some link ∧ ¬Stands edits link) ∨
      (StandsFrom edits link place ∧ edit.removed? ≠ some link) := by
  constructor
  · rintro ⟨before, one, after, split, rfl, added, new, spared⟩
    rcases concat_eq_iff.1 split with ⟨rfl, rfl, -⟩ | ⟨after', split', rfl⟩
    · exact .inl ⟨rfl, added, new⟩
    · obtain ⟨spared, stays⟩ := spares_concat.1 spared
      exact .inr ⟨⟨before, one, after', split', rfl, added, new, spared⟩, stays⟩
  · rintro (⟨rfl, added, new⟩ | ⟨⟨before, one, after, rfl, rfl, added, new, spared⟩, stays⟩)
    · exact ⟨edits, edit, [], rfl, rfl, added, new, by simp [Spares]⟩
    · exact ⟨before, one, after ++ [edit], by simp, rfl, added, new, spares_concat.2 ⟨spared, stays⟩⟩

theorem StandsFrom.stands (since : StandsFrom edits link place) : Stands edits link := by
  obtain ⟨before, edit, after, split, -, added, -, spared⟩ := since
  exact ⟨before, edit, after, split, added, spared⟩

theorem StandsFrom.lt_length (since : StandsFrom edits link place) : place < edits.length := by
  obtain ⟨before, edit, after, rfl, rfl, -⟩ := since
  simp

/-- A link that stands has stood from just one edit on. -/
theorem existsUnique_standsFrom (stands : Stands edits link) : ∃! place, StandsFrom edits link place := by
  induction edits using List.reverseRecOn with
  | nil => exact absurd stands not_stands_nil
  | append_singleton edits edit ih =>
    simp only [standsFrom_concat]
    by_cases old : Stands edits link
    · have stays : edit.removed? ≠ some link := by
        rcases stands_concat.1 stands with added | ⟨-, stays⟩
        · simp [Edit.removed?_of_added? added]
        · exact stays
      simpa [old, stays] using ih old
    · have added : edit.added? = some link := (stands_concat.1 stands).resolve_right fun here => old here.1
      have never (place : Nat) : ¬StandsFrom edits link place := fun since => old since.stands
      simp [old, added, never]

/-- Links that stand keep their order while edits leave them alone. -/
theorem StandsLonger.concat {one other : RoleLink} (longer : StandsLonger edits one other)
    (stays : edit.removed? ≠ some one) (stays' : edit.removed? ≠ some other) :
    StandsLonger (edits ++ [edit]) one other := by
  obtain ⟨place, place', since, since', less⟩ := longer
  exact ⟨place, place', standsFrom_concat.2 (.inr ⟨since, stays⟩),
    standsFrom_concat.2 (.inr ⟨since', stays'⟩), less⟩

/-- A link that is new has not stood as long as the others. -/
theorem standsLonger_concat {other : RoleLink} (stands : Stands edits other)
    (added : edit.added? = some link) (new : ¬Stands edits link) :
    StandsLonger (edits ++ [edit]) other link := by
  obtain ⟨place, since, -⟩ := existsUnique_standsFrom stands
  refine ⟨place, edits.length, standsFrom_concat.2 (.inr ⟨since, ?_⟩),
    standsFrom_concat.2 (.inl ⟨rfl, added, new⟩), since.lt_length⟩
  simp [Edit.removed?_of_added? added]

end

theorem edited_concat (edits : List Edit) (edit : Edit) :
    edited (edits ++ [edit]) = ((edited edits).edit edit).2 := by
  rw [edited, List.foldl_append]
  rfl

/-- The direct roles of each member are those of the links that stand, in the order in which these were
added. -/
structure Tracks (relation : RoleRelation) (edits : List Edit) : Prop where
  links : ∀ member role domain?, role ∈ relation.rolesOf member domain? ↔ StandsIn edits domain? member role
  ordered : ∀ member domain?, (relation.rolesOf member domain?).Pairwise fun one other =>
    StandsLonger edits ⟨member, one, domain?.getD defaultDomain⟩ ⟨member, other, domain?.getD defaultDomain⟩

theorem tracks_empty : empty.Tracks [] := by
  constructor
  · intro member role domain?
    exact iff_of_false List.not_mem_nil not_stands_nil
  · intro member domain?
    exact .nil

namespace Tracks
variable {relation : RoleRelation} {edits : List Edit} (tracks : relation.Tracks edits)
include tracks

/-- Whatever an edit leaves of the roles of a member stays in its order. -/
theorem pairwise_concat {edit : Edit} {member : String} {domain? : Option String}
    {roles : List String} (kept : roles.Sublist (relation.rolesOf member domain?))
    (stays : ∀ role ∈ roles, edit.removed? ≠ some ⟨member, role, domain?.getD defaultDomain⟩) :
    roles.Pairwise fun one other => StandsLonger (edits ++ [edit])
      ⟨member, one, domain?.getD defaultDomain⟩ ⟨member, other, domain?.getD defaultDomain⟩ := by
  refine ((tracks.ordered member domain?).sublist kept).imp_of_mem ?_
  intro one other here there longer
  exact longer.concat (stays one here) (stays other there)

theorem add (member role : String) (domain? : Option String) :
    (relation.add member role domain?).2.Tracks (edits ++ [.add member role domain?]) := by
  constructor
  · intro name other asked?
    rw [mem_rolesOf_add, StandsIn, stands_concat, tracks.links]
    simp [StandsIn, Edit.added?, Edit.removed?, eq_comm]
  · intro name asked?
    have stays : ∀ other ∈ relation.rolesOf name asked?, (Edit.add member role domain?).removed? ≠
        some ⟨name, other, asked?.getD defaultDomain⟩ := fun _ _ => nofun
    have old := tracks.pairwise_concat (.refl _) stays
    rw [rolesOf_add]
    split
    next new =>
      obtain ⟨rfl, same, absent⟩ := new
      refine List.pairwise_append.2 ⟨old, List.pairwise_singleton _ _, ?_⟩
      intro other here last only
      rw [List.mem_singleton.1 only, same]
      apply standsLonger_concat
      · exact same ▸ (tracks.links name other asked?).1 here
      · rfl
      · exact mt (tracks.links name role domain?).2 absent
    next => exact old

theorem remove (member role : String) (domain? : Option String) :
    (relation.remove member role domain?).2.Tracks (edits ++ [.remove member role domain?]) := by
  have links (name other : String) (asked? : Option String) :
      other ∈ (relation.remove member role domain?).2.rolesOf name asked? ↔
        StandsIn (edits ++ [.remove member role domain?]) asked? name other := by
    rw [mem_rolesOf_remove, StandsIn, stands_concat, tracks.links]
    simp [StandsIn, Edit.added?, Edit.removed?, eq_comm, and_comm]
  refine ⟨links, fun name asked? => tracks.pairwise_concat ?_ ?_⟩
  · rw [rolesOf_remove]
    split
    next => exact List.filter_sublist
    next => exact .refl _
  · intro other here
    rcases stands_concat.1 ((links name other asked?).1 here) with added | ⟨-, stays⟩
    · cases added
    · exact stays

/-- What holds of the links after some edits holds after one more. -/
theorem edit (edit : Edit) : (relation.edit edit).2.Tracks (edits ++ [edit]) := by
  cases edit with
  | add member role domain? => exact tracks.add member role domain?
  | remove member role domain? => exact tracks.remove member role domain?

theorem links_eq (domain? : Option String) :
    (fun member role => role ∈ relation.rolesOf member domain?) = StandsIn edits domain? := by
  funext member role
  exact propext (tracks.links member role domain?)

end Tracks

theorem tracks_edited (edits : List Edit) : (edited edits).Tracks edits := by
  induction edits using List.reverseRecOn with
  | nil => exact tracks_empty
  | append_singleton edits edit ih =>
    rw [edited_concat]
    exact ih.edit edit

/-- The answers of a relation are those that the links tell that stand after some edits: whether another edit
changes anything, whether a role is reached, all roles of a name, the nearest first, its direct roles in the
order in which their links were added, and the direct members of a role. -/
structure Computes (relation : RoleRelation) (edits : List Edit) : Prop where
  add_iff : ∀ member role domain?, (relation.add member role domain?).1 = true ↔
    ¬StandsIn edits domain? member role
  remove_iff : ∀ member role domain?, (relation.remove member role domain?).1 = true ↔
    StandsIn edits domain? member role
  reaches_iff : ∀ name role domain?, relation.reaches name role domain? = true ↔
    name = role ∨ Relation.TransGen (StandsIn edits domain?) name role
  mem_allRolesOf : ∀ name role domain?, role ∈ relation.allRolesOf name domain? ↔
    role ≠ name ∧ Relation.TransGen (StandsIn edits domain?) name role
  nodup_allRolesOf : ∀ name domain?, (relation.allRolesOf name domain?).Nodup
  nearest_first : ∀ name domain?, (relation.allRolesOf name domain?).Pairwise fun one other =>
    Search.distance (StandsIn edits domain?) name one ≤ Search.distance (StandsIn edits domain?) name other
  mem_rolesOf : ∀ name role domain?, role ∈ relation.rolesOf name domain? ↔ StandsIn edits domain? name role
  nodup_rolesOf : ∀ name domain?, (relation.rolesOf name domain?).Nodup
  oldest_first : ∀ name domain?, (relation.rolesOf name domain?).Pairwise fun one other =>
    StandsLonger edits ⟨name, one, domain?.getD defaultDomain⟩ ⟨name, other, domain?.getD defaultDomain⟩
  mem_membersOf : ∀ role name domain?, name ∈ relation.membersOf role domain? ↔
    StandsIn edits domain? name role
  nodup_membersOf : ∀ role domain?, (relation.membersOf role domain?).Nodup

/-- After any edits, whatever cycles, loops and names without links they leave, a relation answers as the
links tell that stand. -/
theorem computes_edited (edits : List Edit) : (edited edits).Computes edits := by
  have tracks := tracks_edited edits
  constructor
  · intro member role domain?
    rw [add_iff, tracks.links]
  · intro member role domain?
    rw [remove_iff, tracks.links]
  · intro name role domain?
    rw [reaches_iff, Path, tracks.links_eq, Relation.reflTransGen_iff_eq_or_transGen, eq_comm]
  · intro name role domain?
    rw [mem_allRolesOf_iff, Path, tracks.links_eq, Relation.reflTransGen_iff_eq_or_transGen]
    exact and_congr_right fun other => or_iff_right other
  · exact fun name domain? => RoleGraph.nodup_allRolesOf _ name
  · intro name domain?
    rw [← tracks.links_eq]
    exact RoleGraph.pairwise_allRolesOf _ name
  · exact tracks.links
  · exact fun name domain? => RoleGraph.nodup_rolesOf _ name
  · exact tracks.ordered
  · intro role name domain?
    rw [mem_membersOf, tracks.links]
  · exact nodup_membersOf _

/-- A link that was removed comes last when it is added again, although its names kept their places. -/
example : (edited [.add "alice" "reader" none, .add "alice" "writer" none, .remove "alice" "reader" none,
    .add "alice" "reader" (some "")]).rolesOf "alice" none = ["writer", "reader"] := by decide +kernel

end RoleRelation
end AccessControl
