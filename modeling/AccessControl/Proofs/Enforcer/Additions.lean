import AccessControl.Proofs.Enforcer.Persistence
import AccessControl.Proofs.Enforcer.Remodelling
/-!
Rules that are added at once. Whether a rule is taken depends on what the model declares and not on the rules
that are there, so that the first rule that is not valid decides for all of them, whatever stands around it.
If there is none, the rules are added as if by a call for each, and a type gets those that it did not have, in
the order in which they first appear. To load rules is to add them all to an enforcer without rules.
-/
namespace AccessControl

theorem PolicyText.breakingField?_eq_none {fields : List String} : breakingField? fields = none ↔
    ∀ field ∈ fields, '\r' ∉ field.toList ∧ '\n' ∉ field.toList := by
  refine ⟨not_mem_of_breakingField?, fun whole => List.findIdx?_eq_none_iff.2 fun field inside => ?_⟩
  obtain ⟨noReturn, noFeed⟩ := whole field inside
  unfold breaksLine
  rw [List.any_eq_false]
  intro c here
  have other : c ≠ '\r' ∧ c ≠ '\n' := ⟨fun same => noReturn (same ▸ here), fun same => noFeed (same ▸ here)⟩
  simp [other]

/-- Whether a rule can be added for a model: it fits, and no field breaks a line. -/
structure Rule.Valid (model : Model) (rule : Rule) : Prop where
  fits : rule.Fits model
  unbroken : ∀ field ∈ rule.fields, '\r' ∉ field.toList ∧ '\n' ∉ field.toList

theorem Rule.valid_iff {model : Model} (keyed : model.Keyed) {rule : Rule} :
    rule.Valid model ↔ (Store.ofModel model).validate rule.type rule.fields = .ok () := by
  rw [Store.validate_eq_ok]
  constructor
  · rintro ⟨fits, unbroken⟩
    exact (fits_iff keyed (PolicyText.breakingField?_eq_none.2 unbroken)).1 fits
  · rintro ⟨table, declared, accepted⟩
    have whole := (RuleTable.validate_eq_ok.1 accepted).2.1
    exact ⟨(fits_iff keyed whole).2 ⟨table, declared, accepted⟩, PolicyText.breakingField?_eq_none.1 whole⟩

namespace State
variable {state after : State}

/-- Rules of one type are added like any others. -/
theorem addAll_ofType (type : String) (rules : List (List String)) :
    state.addAll (rules.map (Rule.mk type)) = (state.addRules type rules).map (·.2) := by
  induction rules generalizing state with
  | nil => rfl
  | cons fields rest ih =>
    rw [List.map_cons, addAll, addRules, Result.map_bind]
    congr 1
    funext first
    obtain ⟨isNew, middle⟩ := first
    change middle.addAll (rest.map (Rule.mk type)) = (middle.addRules type rest >>= fun later =>
      Except.ok (isNew || later.1, later.2)).map (·.2)
    rw [ih]
    cases middle.addRules type rest <;> rfl

namespace Sound
variable (sound : state.Sound)
include sound

/-- Each type gets the rules that it did not have, every one once and in the order in which they first appear. -/
theorem rules_addAll_eq {rules : List Rule} (done : state.addAll rules = .ok after) (type : String) :
    after.store.rules type = state.store.rules type ++
      ((Rule.ofType type rules).filter fun fields => fields ∉ state.store.rules type).eraseDups := by
  have present (type : String) : Rule.ofType type state.store.ruleSet.toList = state.store.rules type :=
    (Store.rules_eq _ type).symm
  have once (type : String) : state.store.rules type =
      (Rule.ofType type state.store.ruleSet.toList).eraseDups := by
    rw [present, eraseDups_of_nodup sound.nodup_rules]
  rw [sound.rules_addAll done once, Rule.ofType_append, present, List.eraseDups_append,
    eraseDups_of_nodup sound.nodup_rules, List.removeAll]
  simp only [List.elem_eq_mem, decide_not]

end Sound
end State

namespace Enforcer
variable {start enforcer : Enforcer} {rules : List Rule}

/-- What it means that rules have been added to an enforcer. -/
structure Adds (start : Enforcer) (rules : List Rule) (after : Enforcer) : Prop where
  /-- A call for each of the rules, one after another, leads to the same enforcer. -/
  singly : ∃ news, (rules.mapM fun rule => Mutation.add rule.type rule.fields).run start = (.ok news, after)
  /-- A type has the rules that it did not have after those that it had, each of them once and in the order
  in which they first appear. -/
  listed : ∀ type, after.get type = start.get type ++
    ((Rule.ofType type rules).filter fun fields => fields ∉ start.get type).eraseDups
  /-- The links are those of the rules, in their order. -/
  linked : after.state.Recorded
  consistent : after.Consistent

/-- Whether an error is that of the first rule that is not valid, which it is for this rule alone. -/
def Refuses (start : Enforcer) (rules : List Rule) (error : Error) : Prop :=
  ∃ before rule later, rules = before ++ rule :: later ∧
    (∀ earlier ∈ before, earlier.Valid start.model) ∧ ¬rule.Valid start.model ∧
    rule.Misfit start.model error ∧ (Mutation.add rule.type rule.fields).run start = (.error error, start)

/-- Whether rules have been added to an enforcer, or else an enforcer has been kept: the rules are added if
they are all valid. -/
structure AddsOrKeeps {α : Type} (start kept : Enforcer) (rules : List Rule)
    (ended : Except Error α × Enforcer) : Prop where
  succeeds : (∃ answer, ended.1 = .ok answer) ↔ ∀ rule ∈ rules, rule.Valid start.model
  adds : ∀ answer, ended.1 = .ok answer → start.Adds rules ended.2
  refuses : ∀ error, ended.1 = .error error → start.Refuses rules error ∧ ended.2 = kept

theorem run_singly {state : State} (done : start.state.addAll rules = .ok state) :
    ∃ news, (rules.mapM fun rule => Mutation.add rule.type rule.fields).run start =
      (.ok news, { start with state }) := by
  induction rules generalizing start with
  | nil =>
    cases done
    exact ⟨[], rfl⟩
  | cons rule rest ih =>
    obtain ⟨⟨isNew, middle⟩, added, later⟩ := Result.bind_eq_ok.1 done
    let next : Enforcer := { start with state := middle }
    have goesOn : next.state.addAll rest = .ok state := later
    obtain ⟨news, run⟩ := ih goesOn
    have first : (Mutation.add rule.type rule.fields).run start = (.ok isNew, next) := by
      rw [Mutation.run_add]
      exact answered_of_ok added
    refine ⟨isNew :: news, ?_⟩
    rw [List.mapM_cons, Action.run_bind_of_ok first, Action.run_bind_of_ok run]
    rfl

section
variable [Regex.Engine]

theorem adds_of_addAll (orderly : start.state.Orderly) {state : State}
    (done : start.state.addAll rules = .ok state) : start.Adds rules { start with state } := by
  have after := orderly.leads (.addAll .refl done)
  exact ⟨run_singly done, orderly.sound.rules_addAll_eq done, after.recorded, consistent_of_sound after.sound⟩

/-- Whatever ends as the addition of some rules does is all or nothing. -/
theorem addsOrKeeps_of_addAll {α : Type} {kept : Enforcer} (orderly : start.state.Orderly)
    {ended : Except Error α × Enforcer}
    (done : ∀ state, start.state.addAll rules = .ok state → ∃ answer, ended = (.ok answer, { start with state }))
    (failed : ∀ error, start.state.addAll rules = .error error → ended = (.error error, kept)) :
    start.AddsOrKeeps kept rules ended := by
  have keyed := orderly.sound.keyed
  rcases orderly.sound.addAll_cases rules with
    ⟨valid, state, added⟩ | ⟨before, rule, later, error, rfl, earlier, refused, all⟩
  · obtain ⟨answer, rfl⟩ := done state added
    refine ⟨iff_of_true ⟨answer, rfl⟩ fun rule inside => (Rule.valid_iff keyed).2 (valid rule inside),
      fun _ _ => adds_of_addAll orderly added, ?_⟩
    intro error same
    cases same
  · obtain rfl := failed error all
    have invalid : ¬rule.Valid start.model := by
      intro valid
      have passed := (Rule.valid_iff keyed).1 valid
      rw [orderly.sound.addRule_eq_error.1 refused] at passed
      cases passed
    refine ⟨iff_of_false (by simp) fun valid => invalid (valid rule (by simp)), ?_, ?_⟩
    · intro answer same
      cases same
    · intro _ same
      cases same
      refine ⟨⟨before, rule, later, rfl, fun rule inside => (Rule.valid_iff keyed).2 (earlier rule inside), invalid,
        orderly.sound.misfit_of_addRule refused, ?_⟩, rfl⟩
      rw [Mutation.run_add]
      exact answered_of_error refused

theorem addMany_addsOrKeeps (orderly : enforcer.state.Orderly) (type : String) (fields : List (List String)) :
    enforcer.AddsOrKeeps enforcer (fields.map (Rule.mk type)) ((Mutation.addMany type fields).run enforcer) := by
  rw [Mutation.run_addMany]
  apply addsOrKeeps_of_addAll orderly
  · intro state added
    rw [State.addAll_ofType] at added
    obtain ⟨⟨answer, _⟩, done, rfl⟩ := Result.map_eq_ok.1 added
    exact ⟨answer, answered_of_ok done⟩
  · intro error refused
    rw [State.addAll_ofType] at refused
    exact answered_of_error (Result.map_eq_error.1 refused)

end

/-- The call answers whether one of the rules is new. -/
theorem addMany_iff (sound : enforcer.state.Sound) {type : String} {fields : List (List String)} {answer : Bool}
    (run : ((Mutation.addMany type fields).run enforcer).1 = .ok answer) :
    answer = true ↔ ∃ rule ∈ fields, rule ∉ enforcer.get type := by
  rw [Mutation.run_addMany] at run
  obtain ⟨⟨_, after⟩, done, rfl⟩ := Result.map_eq_ok.1 run
  obtain ⟨state, added, rfl⟩ := exists_of_update done
  have all : enforcer.state.addAll (fields.map (Rule.mk type)) = .ok state := by
    rw [State.addAll_ofType, added]
    rfl
  have listed := sound.rules_addAll_eq all type
  rw [Rule.ofType_map] at listed
  have new : (∃ rule ∈ fields, rule ∉ enforcer.get type) ↔
      (fields.filter fun rule => rule ∉ enforcer.state.store.rules type).eraseDups ≠ [] := by
    simp [List.eq_nil_iff_forall_not_mem, List.mem_eraseDups, get]
  rw [new]
  rcases State.addRules_cases added with ⟨rfl, rfl⟩ | ⟨rfl, more⟩
  · exact iff_of_false Bool.false_ne_true fun some => some (List.self_eq_append_right.1 listed)
  · refine iff_of_true rfl fun none => more.ne ?_
    rw [listed, none, List.append_nil]

theorem replaceRules_eq (enforcer : Enforcer) (rules : RuleSet) : enforcer.replaceRules rules =
    (enforcer.clear.state.addAll rules.toList).map fun state => { enforcer with state } := rfl

/-- Rules that are handed over take the place of all others, as if they were added to an enforcer without
rules. -/
theorem replaceRules_addsOrKeeps [Regex.Engine] (orderly : enforcer.state.Orderly) (rules : RuleSet) :
    enforcer.clear.AddsOrKeeps enforcer rules.toList
      ((enforcer.replaceRules rules).map fun _ => (), enforcer.orKeep (enforcer.replaceRules rules)) := by
  apply addsOrKeeps_of_addAll orderly.withoutRules
  · intro state added
    refine ⟨(), ?_⟩
    rw [replaceRules_eq, added]
    rfl
  · intro error refused
    rw [replaceRules_eq, refused]
    rfl

end Enforcer

namespace World

/-- Rules that have been read are loaded by handing them over. -/
theorem run_load {platform : Platform} {enforcer : Enforcer} {files : FileTree} {storage : Storage}
    {rules : RuleSet} (kept : enforcer.storage? = some storage)
    (stored : (storage.loadOn platform).value files = .ok rules) :
    (load platform).run ⟨enforcer, files⟩ = ((enforcer.replaceRules rules).map fun _ => (),
      ⟨enforcer.orKeep (enforcer.replaceRules rules), files⟩) := by
  have read : (storage.loadOn platform).run files = (.ok rules, files) := by
    unfold Action.value at stored
    rcases (storage.loadOn_follows platform files).cases with
      ⟨value, after, ended, same⟩ | ⟨error, after, ended, -⟩
    · obtain ⟨_, -, rest⟩ := Result.map_eq_ok.1 same
      cases rest
      rw [ended] at stored ⊢
      cases stored
      rfl
    · rw [ended] at stored
      cases stored
  have there : (liftM enforcer.storage : Action World Error Storage).run ⟨enforcer, files⟩ =
      (.ok storage, ⟨enforcer, files⟩) := by
    rw [Enforcer.storage_eq_ok.2 kept]
    rfl
  have handed : (store (storage.loadOn platform)).run ⟨enforcer, files⟩ = (.ok rules, ⟨enforcer, files⟩) := by
    change (((storage.loadOn platform).run files).1, World.mk enforcer ((storage.loadOn platform).run files).2) = _
    rw [read]
  refine (Action.run_bind_of_ok there).trans ((Action.run_bind_of_ok handed).trans ?_)
  change ExceptT.run (liftM (enforcer.replaceRules rules) >>= fun enforcer =>
    modify ({ · with enforcer }) : Action World Error PUnit) ⟨enforcer, files⟩ = _
  cases enforcer.replaceRules rules <;> rfl

end World

namespace Enforcer
variable [Regex.Engine] {enforcer : Enforcer}

/-- Rules of one type that are added by one call are added as by a call for each of them if they are all valid;
otherwise the call fails as it would for the first rule that is not, and all stays as it was. So it is when
stored rules are loaded, the policy rules before the links: each type has then just those that are stored,
every one once and in the order in which they first appear, and nothing is left of the rules before. -/
theorem addsOrKeeps_of_reachable (reachable : enforcer.Reachable) :
    (∀ type fields,
      enforcer.AddsOrKeeps enforcer (fields.map (Rule.mk type)) ((Mutation.addMany type fields).run enforcer) ∧
      ∀ answer, ((Mutation.addMany type fields).run enforcer).1 = .ok answer →
        (answer = true ↔ ∃ rule ∈ fields, rule ∉ enforcer.get type)) ∧
    ∀ platform files storage rules, enforcer.storage? = some storage →
      (storage.loadOn platform).value files = .ok rules →
      ∃ ended, (World.load platform).run ⟨enforcer, files⟩ = (ended.1, ⟨ended.2, files⟩) ∧
        enforcer.clear.AddsOrKeeps enforcer rules.toList ended ∧
        ∀ answer, ended.1 = .ok answer →
          ∀ type, ended.2.get type = (Rule.ofType type rules.toList).eraseDups := by
  have orderly := orderly_of_reachable reachable
  constructor
  · intro type fields
    exact ⟨addMany_addsOrKeeps orderly type fields, fun answer => addMany_iff orderly.sound⟩
  · intro platform files storage rules kept stored
    have handed := replaceRules_addsOrKeeps orderly rules
    refine ⟨_, World.run_load kept stored, handed, ?_⟩
    intro answer done type
    have bare : enforcer.clear.get type = [] := Store.rules_ofModel _ type
    rw [(handed.adds answer done).listed, bare]
    simp

end Enforcer

namespace Tenants

/-- The enforcer of a permission and a link, with a text where its rules may be kept. -/
def stored : Enforcer :=
  Enforcer.run { enforcer with storage? := some (.text "policy/rules") }
    [.add "p" ["admin", "one", "allow"], .addRole "alice" "admin" (some "one")]

theorem reachable_stored : stored.Reachable := .intro ofText_text ofModel_model _ _

end Tenants

namespace Enforcer
open Tenants

/-- Of the rules that are added one comes twice and one is there already; of those that are stored the second
is of an unknown type. -/
theorem addsOrKeeps_of_tenants :
    let fields := [["admin", "two", "allow"], ["admin", "one", "allow"], ["admin", "two", "allow"]]
    let rules : RuleSet := ⟨[⟨"p", ["admin", "one", "allow"]⟩, ⟨"q", ["alice", "admin", "one"]⟩], []⟩
    stored.AddsOrKeeps stored (fields.map (Rule.mk "p")) ((Mutation.addMany "p" fields).run stored) ∧
    ∃ ended, (World.load .reliable).run ⟨stored, strayFiles⟩ = (ended.1, ⟨ended.2, strayFiles⟩) ∧
      stored.clear.AddsOrKeeps stored rules.toList ended := by
  intro fields rules
  have settled := addsOrKeeps_of_reachable reachable_stored
  have read : (Storage.loadOn .reliable (.text "policy/rules")).value strayFiles = .ok rules := by
    decide +kernel
  obtain ⟨ended, run, handed, -⟩ := settled.2 .reliable strayFiles (.text "policy/rules") rules rfl read
  exact ⟨(settled.1 "p" fields).1, ended, run, handed⟩

end Enforcer
end AccessControl
