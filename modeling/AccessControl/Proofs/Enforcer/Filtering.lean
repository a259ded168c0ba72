import AccessControl.Proofs.Enforcer.Origin
import AccessControl.Proofs.Enforcer.Removals
/-!
Rules that are taken away by a filter. A filter selects the same rules when they are asked for as when they are
removed, whether it goes through the list, the index or the links. What is left is what removing each of the
selected rules leaves, in whatever order that is done.
-/
namespace AccessControl

/-- Whether the fields of a rule from `index` on are the given values. An empty value says nothing about its
field, and a place past the end of the rule has no field. -/
def Selects (index : Nat) (values fields : List String) : Prop :=
  ∀ (place : Nat) (value : String), values[place]? = some value → value ≠ "" →
    fields[index + place]? = some value

/-- The same with places as the machine counts them, which goes on with the first after the last. -/
def Hits (index : Word) (values fields : List String) : Prop :=
  ∀ (place : Nat) (value : String), values[place]? = some value → value ≠ "" →
    fields[(index.toNat + place) % 2 ^ 64]? = some value

/-- No value is for a place past the last that the machine counts. -/
def Within (index : Word) (values : List String) : Prop :=
  ∀ (place : Nat) (value : String), values[place]? = some value → value ≠ "" → index.toNat + place < 2 ^ 64

theorem Within.of_length {index : Word} {values : List String}
    (short : index.toNat + values.length ≤ 2 ^ 64) : Within index values := by
  intro place value given _
  have inside : place < values.length := (List.getElem?_eq_some_iff.1 given).1
  omega

/-- A filter that stays within the places of the machine hits the rules that it selects. -/
theorem hits_iff_selects {index : Word} {values : List String} (within : Within index values)
    (fields : List String) : Hits index values fields ↔ Selects index.toNat values fields := by
  unfold Hits Selects
  refine forall₄_congr fun place value given nonempty => ?_
  rw [Nat.mod_eq_of_lt (within place value given nonempty)]

/-- The place after one and the places after that. -/
theorem toNat_succ_add (index : Word) (place : Nat) :
    ((index + 1).toNat + place) % 2 ^ 64 = (index.toNat + (place + 1)) % 2 ^ 64 := by
  rw [BitVec.toNat_add, Nat.mod_add_mod, Nat.add_assoc, Nat.add_comm place]
  rfl

theorem fieldsMatch_iff {fields values : List String} {index : Word} :
    fieldsMatch fields index values = true ↔ Hits index values fields := by
  induction values generalizing index with
  | nil => simp [fieldsMatch, Hits]
  | cons value rest ih =>
    rw [fieldsMatch, Bool.and_eq_true, ih]
    have here : (index.toNat + 0) % 2 ^ 64 = index.toNat := Nat.mod_eq_of_lt index.isLt
    constructor
    · rintro ⟨first, later⟩ (_ | place) other found given
      · obtain rfl : value = other := by simpa using found
        rw [here]
        simpa [given] using first
      · rw [← toNat_succ_add]
        exact later place other (by simpa using found) given
    · intro hits
      refine ⟨?_, fun place other found given => ?_⟩
      · by_cases empty : value = ""
        · simp [empty]
        · have first := hits 0 value rfl empty
          rw [here] at first
          simp [first]
      · rw [toNat_succ_add]
        exact hits (place + 1) other (by simpa using found) given

instance (index : Word) (values fields : List String) : Decidable (Hits index values fields) :=
  decidable_of_iff _ fieldsMatch_iff

theorem fieldsMatch_eq (index : Word) (values fields : List String) :
    fieldsMatch fields index values = decide (Hits index values fields) := by
  rw [Bool.eq_iff_iff, fieldsMatch_iff, decide_eq_true_iff]

namespace State
variable {state after : State} {type : String}

/-- The other types do not notice a change. -/
theorem find?_withChanged_other {other : String} (distinct : other ≠ type) (change : RuleTable → RuleTable)
    (relink : RoleRelation → RoleRelation) :
    (state.withChanged type change relink).store.tables.find? other = state.store.tables.find? other ∧
      (state.withChanged type change relink).roles.find? other = state.roles.find? other := by
  unfold withChanged
  refine ⟨by rw [Store.find?_withTable, if_neg distinct], ?_⟩
  dsimp only
  split
  · exact Catalogue.find?_modify_other _ _ distinct
  · rfl

theorem find?_removeFiltered_other {index : Word} {values : List String} {removed : List (List String)}
    (done : state.removeFiltered type index values = .ok (removed, after)) {other : String}
    (distinct : other ≠ type) : after.store.tables.find? other = state.store.tables.find? other ∧
      after.roles.find? other = state.roles.find? other := by
  obtain ⟨_, -, -, ⟨-, rfl⟩ | ⟨-, rfl⟩⟩ := removeFiltered_cases done
  · exact ⟨rfl, rfl⟩
  · exact find?_withChanged_other distinct _ _

/-- What is removed is what the filter is answered with. -/
theorem removed_eq_filtered {index : Word} {values : List String} {removed : List (List String)}
    (done : state.removeFiltered type index values = .ok (removed, after)) :
    removed = state.store.filtered type index values := by
  obtain ⟨table, found, rfl, -⟩ := removeFiltered_cases done
  rw [Store.filtered, Store.rules_of_find? found]

namespace Sound
variable (sound : state.Sound)
include sound

theorem removeFiltered_of_unknown (policy : type ∉ state.compiled.model.policies.names)
    (role : type ∉ state.compiled.model.roles.names) (index : Word) (values : List String) :
    state.removeFiltered type index values = .error (.unknownType type) := by
  have missing : type ∉ state.store.types := by
    rw [sound.mem_types]
    exact not_or.2 ⟨policy, role⟩
  have unknown : state.store.table type = .error (.unknownType type) := by
    unfold Store.table
    cases found : state.store.tables.find? type with
    | none => rfl
    | some table => exact absurd ((Catalogue.mem_names_iff _ _).2 ⟨table, found⟩) missing
  unfold State.removeFiltered Store.removeFiltered
  rw [unknown]
  rfl

end Sound
end State

namespace Enforcer
variable {enforcer : Enforcer} {type : String}

/-- Rules that are removed by a call for each are gone in the end, whatever their order. -/
theorem run_removeEach {origin : State} {order : List (List String)} (sound : enforcer.state.Sound)
    (leads : origin.Leads enforcer.state) (distinct : order.Nodup)
    (inside : ∀ fields ∈ order, fields ∈ enforcer.get type) :
    ∃ state, (order.mapM (Mutation.remove type)).run enforcer =
        (.ok (order.map fun _ => true), { enforcer with state }) ∧
      origin.Leads state ∧ ∀ other, state.store.rules other =
        (enforcer.get other).filter fun fields => !(other == type && order.contains fields) := by
  induction order generalizing enforcer with
  | nil => exact ⟨enforcer.state, rfl, leads, fun other => by simp [get]⟩
  | cons fields rest ih =>
    rw [List.forall_mem_cons] at inside
    obtain ⟨otherwise, distinctRest⟩ := List.nodup_cons.1 distinct
    obtain ⟨middle, removed, left⟩ := sound.exists_removeRule inside.1
    let next : Enforcer := { enforcer with state := middle }
    have first : (Mutation.remove type fields).run enforcer = (.ok true, next) := by
      rw [Mutation.run_remove]
      exact answered_of_ok removed
    have sound' : next.state.Sound := sound.removeRule removed
    have still : ∀ other ∈ rest, other ∈ next.get type := by
      intro other later
      have apart : other ≠ fields := fun same => otherwise (same ▸ later)
      change other ∈ middle.store.rules type
      rw [left, List.mem_filter]
      exact ⟨inside.2 other later, by simp [apart]⟩
    obtain ⟨state, run, leads', rules⟩ := ih sound' (leads.removeRule removed) distinctRest still
    refine ⟨state, ?_, leads', ?_⟩
    · rw [List.mapM_cons, Action.run_bind_of_ok first, Action.run_bind_of_ok run]
      rfl
    · intro other
      rw [rules]
      change (middle.store.rules other).filter _ = _
      rw [left, List.filter_filter]
      apply List.filter_congr
      intro rule _
      rw [List.contains_cons]
      cases other == type <;> cases rule == fields <;> simp

theorem filtered_eq (enforcer : Enforcer) (type : String) (index : Word) (values : List String) :
    enforcer.filtered type index values = (enforcer.get type).filter fun fields => Hits index values fields := by
  unfold filtered Store.filtered
  simp only [fieldsMatch_eq]
  rfl

section
variable [Regex.Engine]

/-- What it means that a filter has taken rules of a type away. -/
structure Strips (enforcer : Enforcer) (type : String) (index : Word) (values : List String)
    (after : Enforcer) : Prop where
  /-- The rules that go are those that the filter is answered with. -/
  removed : (State.eraseMatching type index values).onCopy.run enforcer =
    (.ok (enforcer.filtered type index values), after)
  answer : (Mutation.removeFiltered type index values).run enforcer =
    (.ok !(enforcer.filtered type index values).isEmpty, after)
  /-- The others stay, in their order. -/
  left : after.get type = (enforcer.get type).filter fun fields => ¬Hits index values fields
  absent : ∀ fields ∈ enforcer.get type,
    after.has type fields = false ↔ fields ∈ enforcer.filtered type index values
  emptied : after.filtered type index values = []
  model : after.model = enforcer.model
  others : ∀ other ≠ type, after.state.store.tables.find? other = enforcer.state.store.tables.find? other ∧
    after.state.roles.find? other = enforcer.state.roles.find? other
  /-- Each of the rules could have been removed by a call of its own, in any order. -/
  singly : ∀ order : List (List String), order.Perm (enforcer.filtered type index values) →
    ∃ single, (order.mapM (Mutation.remove type)).run enforcer = (.ok (order.map fun _ => true), single) ∧
      after.SameAnswers single

/-- Removing the selected rules at once or one by one comes to the same. -/
theorem sameAnswers_removeEach (settled : enforcer.Settled) {index : Word} {values : List String}
    {removed : List (List String)} {state : State}
    (done : enforcer.state.removeFiltered type index values = .ok (removed, state))
    {order : List (List String)} (selected : order.Perm (enforcer.filtered type index values)) :
    ∃ single, (order.mapM (Mutation.remove type)).run enforcer = (.ok (order.map fun _ => true), single) ∧
      SameAnswers { enforcer with state } single := by
  have leads : enforcer.state.Leads state := .removeFiltered .refl done
  have distinct : order.Nodup := selected.nodup_iff.2 (settled.orderly.sound.nodup_rules.filter _)
  have inside : ∀ fields ∈ order, fields ∈ enforcer.get type :=
    fun fields here => (List.mem_filter.1 (selected.mem_iff.1 here)).1
  obtain ⟨state', run, leads', rules'⟩ := run_removeEach settled.orderly.sound .refl distinct inside
  refine ⟨_, run, sameAnswers_of_leads settled (settled.leads leads) (settled.leads leads') leads leads' ?_ ?_⟩
  · intro other
    change state.store.rules other = state'.store.rules other
    rw [State.rules_removeFiltered done, rules']
    apply List.filter_congr
    intro fields here
    by_cases same : other = type
    · subst same
      have chosen : order.contains fields = fieldsMatch fields index values := by
        rw [Bool.eq_iff_iff, List.contains_iff_mem, selected.mem_iff]
        exact List.mem_filter.trans (and_iff_right here)
      rw [chosen]
    · rw [beq_false_of_ne same]
      rfl
  · intro other
    change state.store.rules other ⊆ _
    rw [State.rules_removeFiltered done]
    exact List.filter_sublist.subset

theorem exists_strips (settled : enforcer.Settled)
    (known : type ∈ enforcer.model.policies.names ∨ type ∈ enforcer.model.roles.names) (index : Word)
    (values : List String) : ∃ after, enforcer.Strips type index values after := by
  have sound := settled.orderly.sound
  obtain ⟨removed, state, done⟩ := sound.exists_removeFiltered (sound.mem_types.2 known) index values
  have gone : removed = enforcer.filtered type index values := State.removed_eq_filtered done
  have run : (State.eraseMatching type index values).onCopy.run enforcer =
      (.ok (enforcer.filtered type index values), { enforcer with state }) := by
    rw [run_onCopy]
    apply answered_of_ok
    rw [State.outcome_eraseMatching, done, gone]
  have left : state.store.rules type =
      (enforcer.get type).filter fun fields => ¬Hits index values fields := by
    rw [State.rules_removeFiltered done]
    apply List.filter_congr
    intro fields _
    rw [beq_self_eq_true, Bool.true_and, fieldsMatch_eq, decide_not]
  refine ⟨{ enforcer with state }, run, Action.run_bind_of_ok run, left, ?_, ?_, ?_, ?_, ?_⟩
  · intro fields here
    rw [← Bool.not_eq_true]
    refine (not_congr ((sound.removeFiltered done).has_iff fields)).trans ?_
    rw [left, filtered_eq, List.mem_filter, List.mem_filter]
    simp [here]
  · rw [filtered_eq]
    change (state.store.rules type).filter _ = []
    rw [left, List.filter_filter]
    simp
  · exact congrArg CompiledModel.model (State.Leads.removeFiltered .refl done).compiled_eq
  · exact fun other => State.find?_removeFiltered_other done
  · exact fun order => sameAnswers_removeEach settled done

end

end Enforcer
end AccessControl
