import AccessControl.Proofs.Enforcer.Rebuilding
/-!
What the explanation of a decision is worth. A verdict rests on the rule that it is put down to: other policy
rules may go, and the request is decided as before, by the same rule, wherever it then stands. If that rule
ended the search, then no rules that come after it are looked at, and any may be added, also such as cannot
be evaluated for the request. Only where allowing and denying rules both count an allowing one does not end
the search.
-/
namespace AccessControl

/-- What is found first in a list without repeats is found first in each part of the list that has it. -/
theorem find?_of_sublist {α : Type} {found : α} {selected : α → Bool} {part whole : List α}
    (sublist : part.Sublist whole) (distinct : whole.Nodup) (first : whole.find? selected = some found)
    (kept : found ∈ part) : part.find? selected = some found := by
  induction sublist with
  | slnil => cases kept
  | @cons part whole head sublist ih =>
    obtain ⟨fresh, distinct⟩ := List.nodup_cons.1 distinct
    by_cases here : selected head = true
    · rw [List.find?_cons_of_pos here] at first
      cases first
      exact absurd (sublist.subset kept) fresh
    · rw [List.find?_cons_of_neg here] at first
      exact ih distinct first kept
  | @cons_cons part whole head sublist ih =>
    by_cases here : selected head = true
    · rw [List.find?_cons_of_pos here] at first ⊢
      exact first
    · rw [List.find?_cons_of_neg here] at first ⊢
      have other : found ≠ head := by
        rintro rfl
        exact here (List.find?_some first)
      exact ih (List.nodup_cons.1 distinct).2 first (List.mem_of_ne_of_mem other kept)

theorem find?_none_of_sublist {α : Type} {selected : α → Bool} {part whole : List α}
    (sublist : part.Sublist whole) (absent : whole.find? selected = none) : part.find? selected = none := by
  rw [List.find?_eq_none] at absent ⊢
  exact fun item inside => absent item (sublist.subset inside)

namespace State
variable [Regex.Engine] {state other : State} {request : List String}

section
variable (compiled : other.compiled = state.compiled)
  (outcomes : other.outcome request = state.outcome request)
include compiled outcomes

/-- A decision is made by the first rule that stops the search, and where there is none, by the first that
allows. -/
theorem decision_of_first (stop : other.firstStop? request = state.firstStop? request)
    (allow : state.firstStop? request = none → state.compiled.effect.combinator = .allowAndDeny →
      other.firstAllow? request = state.firstAllow? request) :
    other.decision request = state.decision request := by
  obtain ⟨result, ruling⟩ := exists_ruling state request
  rw [decision_of_ruling ruling]
  apply decision_of_ruling
  cases ruling with
  | arity wrong =>
    rw [← compiled] at wrong ⊢
    exact .arity wrong
  | failed long first fails =>
    rw [← compiled] at long
    exact .failed long (stop.trans first) (outcomes ▸ fails)
  | decided long first matched =>
    rw [← compiled] at long ⊢
    exact .decided long (stop.trans first) (outcomes ▸ matched)
  | allowed long undecided both first =>
    have allowing := allow undecided both
    rw [← compiled] at long both ⊢
    exact .allowed long (stop.trans undecided) both (allowing.trans first)
  | fallback long undecided none =>
    rw [← compiled] at long none ⊢
    refine .fallback long (stop.trans undecided) fun both => ?_
    exact (allow undecided (compiled ▸ both)).trans (none both)

/-- Other rules than the one that the verdict is put down to may be missing. -/
theorem decision_of_sublist (distinct : state.deciding.Nodup)
    (sublist : other.deciding.Sublist state.deciding) {verdict : Verdict}
    (decided : state.decision request = .ok verdict)
    (kept : ∀ rule, verdict.decidedBy? = some rule → rule.fields ∈ other.deciding) :
    other.decision request = .ok verdict := by
  have passes (undecided : state.firstStop? request = none) : other.firstStop? request = none := by
    unfold firstStop? at undecided ⊢
    rw [outcomes, compiled]
    exact find?_none_of_sublist sublist undecided
  rw [← decided]
  cases decision_eq_iff.1 decided with
  | decided long first matched =>
    have stop : other.firstStop? request = state.firstStop? request := by
      rw [first]
      unfold firstStop? at first ⊢
      rw [outcomes, compiled]
      exact find?_of_sublist sublist distinct first (kept _ rfl)
    apply decision_of_first compiled outcomes stop
    intro undecided
    rw [first] at undecided
    cases undecided
  | allowed long undecided both first =>
    apply decision_of_first compiled outcomes ((passes undecided).trans undecided.symm)
    intro _ _
    rw [first]
    unfold firstAllow? at first ⊢
    rw [outcomes]
    exact find?_of_sublist sublist distinct first (kept _ rfl)
  | fallback long undecided silent =>
    apply decision_of_first compiled outcomes ((passes undecided).trans undecided.symm)
    intro _ both
    have absent := silent both
    rw [absent]
    unfold firstAllow? at absent ⊢
    rw [outcomes]
    exact find?_none_of_sublist sublist absent

/-- Whatever comes after the rule that ended the search does not count. -/
theorem decision_of_prefix (extended : state.deciding <+: other.deciding) {verdict : Verdict} {rule : Rule}
    (decided : state.decision request = .ok verdict) (explained : verdict.decidedBy? = some rule)
    (ends : state.compiled.effect.combinator = .allowAndDeny →
      state.statedEffect rule.fields = .ok .deny) : other.decision request = .ok verdict := by
  rw [← decided]
  cases decision_eq_iff.1 decided with
  | decided long first matched =>
    have stop : other.firstStop? request = state.firstStop? request := by
      rw [first]
      unfold firstStop? at first ⊢
      rw [outcomes, compiled]
      exact extended.find?_eq_some first
    apply decision_of_first compiled outcomes stop
    intro undecided
    rw [first] at undecided
    cases undecided
  | allowed long undecided both first =>
    -- A rule that allows does not deny.
    cases explained
    have allows := List.find?_some first
    unfold outcome at allows
    rw [ends both] at allows
    split at allows <;> cases allows
  | fallback long undecided silent => cases explained

end

/-- A verdict is put down to one of the deciding rules. -/
theorem decidedBy?_cases {verdict : Verdict} {rule : Rule}
    (decided : state.decision request = .ok verdict) (explained : verdict.decidedBy? = some rule) :
    rule.type = state.compiled.matcher.type ∧ rule.fields ∈ state.deciding := by
  cases decision_eq_iff.1 decided with
  | decided long first matched =>
    cases explained
    exact ⟨rfl, List.mem_of_find?_eq_some first⟩
  | allowed long undecided both first =>
    cases explained
    exact ⟨rfl, List.mem_of_find?_eq_some first⟩
  | fallback long undecided silent => cases explained

end State

namespace Enforcer

/-- Two enforcers of one model with the same grouping rules, where the policy rules of each type in the one
are related to those in the other. -/
structure Alters (related : String → List (List String) → List (List String) → Prop)
    (one other : Enforcer) : Prop where
  model : other.model = one.model
  groupings : ∀ type, isGroupingType type = true → other.get type = one.get type
  policies : ∀ type, isGroupingType type = false → related type (one.get type) (other.get type)

/-- Policy rules are missing from another enforcer, but not the one that is kept, if there is one; those
that are left stand in the same order. -/
def Reduces (kept? : Option Rule) : Enforcer → Enforcer → Prop :=
  Alters fun type before after =>
    after.Sublist before ∧ ∀ fields ∈ before, kept? = some ⟨type, fields⟩ → fields ∈ after

/-- Policy rules have been added to another enforcer, after those of their types. -/
def Extends : Enforcer → Enforcer → Prop := Alters fun _ before after => before <+: after

variable {enforcer other : Enforcer} {request : List String} {verdict : Verdict}

namespace Alters
variable {related : String → List (List String) → List (List String) → Prop}

theorem trans {middle : Enforcer}
    (transitive : ∀ type {one two three}, related type one two → related type two three →
      related type one three)
    (first : enforcer.Alters related middle) (second : middle.Alters related other) :
    enforcer.Alters related other :=
  ⟨second.model.trans first.model,
    fun type grouping => (second.groupings type grouping).trans (first.groupings type grouping),
    fun type policy => transitive type (first.policies type policy) (second.policies type policy)⟩

theorem sharesLinks [Regex.Engine] (alters : enforcer.Alters related other) (settled : enforcer.Settled)
    (settled' : other.Settled) : other.state.SharesLinks enforcer.state :=
  ⟨settled'.compiled_eq settled alters.model, alters.groupings⟩

variable (reflexive : ∀ type rules, related type rules rules)
include reflexive

theorem refl (enforcer : Enforcer) : enforcer.Alters related enforcer :=
  ⟨rfl, fun _ _ => rfl, fun type _ => reflexive type (enforcer.get type)⟩

theorem rules (alters : enforcer.Alters related other) (type : String) :
    related type (enforcer.get type) (other.get type) := by
  cases grouping : isGroupingType type with
  | false => exact alters.policies type grouping
  | true =>
    rw [alters.groupings type grouping]
    exact reflexive type _

variable {type : String} (policy : isGroupingType type = false)
include policy

/-- The rules of one policy type change. -/
theorem withChanged {table : RuleTable} (found : enforcer.state.store.tables.find? type = some table)
    {change : RuleTable → RuleTable} {relink : RoleRelation → RoleRelation}
    (step : related type table.rules (change table).rules) :
    enforcer.Alters related { enforcer with state := enforcer.state.withChanged type change relink } := by
  have rules := State.rules_withChanged found change relink
  refine ⟨rfl, ?_, ?_⟩
  · intro other grouping
    have apart : other ≠ type := by
      rintro rfl
      rw [policy] at grouping
      cases grouping
    exact (rules other).trans (if_neg apart)
  · intro other _
    change related other _ ((enforcer.state.withChanged type change relink).store.rules other)
    rw [rules]
    by_cases same : other = type
    · rw [if_pos same, same, get, Store.rules_of_find? found]
      exact step
    · rw [if_neg same]
      exact reflexive other _

/-- A change of one policy type may also fail, or find that there is nothing to do. -/
theorem update {change : State → Except Error (Bool × State)}
    (step : ∀ {answer after}, change enforcer.state = .ok (answer, after) → after = enforcer.state ∨
      ∃ table edit relink, enforcer.state.store.tables.find? type = some table ∧
        related type table.rules (edit table).rules ∧
        after = enforcer.state.withChanged type edit relink) :
    enforcer.Alters related (enforcer.after (enforcer.update change)) := by
  cases updated : enforcer.update change with
  | error error => exact refl reflexive enforcer
  | ok result =>
    obtain ⟨answer, after⟩ := result
    obtain ⟨state, done, rfl⟩ := exists_of_update updated
    change enforcer.Alters related { enforcer with state }
    rcases step done with rfl | ⟨table, edit, relink, found, altered, rfl⟩
    · exact refl reflexive enforcer
    · exact withChanged reflexive policy found altered

end Alters

namespace Reduces
variable {kept? : Option Rule}

theorem refl (enforcer : Enforcer) : enforcer.Reduces kept? enforcer :=
  Alters.refl (fun _ _ => ⟨.refl _, fun _ inside _ => inside⟩) enforcer

variable [Regex.Engine]

theorem remove {rule : Rule} (policy : isGroupingType rule.type = false) (other : kept? ≠ some rule) :
    enforcer.Reduces kept? (enforcer.perform (.remove rule.type rule.fields)) := by
  apply Alters.update (fun _ _ => ⟨.refl _, fun _ inside _ => inside⟩) policy
  intro answer after done
  obtain ⟨table, found, ⟨-, -, rfl⟩ | ⟨-, -, rfl⟩⟩ := State.removeRule_cases done
  · exact .inl rfl
  · refine .inr ⟨table, _, _, found, ⟨List.filter_sublist, ?_⟩, rfl⟩
    intro fields inside kept
    refine List.mem_filter.2 ⟨inside, ?_⟩
    rw [bne_iff_ne]
    rintro rfl
    exact other kept

theorem run {removed : List Rule}
    (others : ∀ rule ∈ removed, isGroupingType rule.type = false ∧ kept? ≠ some rule) :
    enforcer.Reduces kept? (enforcer.run (removed.map fun rule => .remove rule.type rule.fields)) := by
  induction removed generalizing enforcer with
  | nil => exact refl enforcer
  | cons rule rest ih =>
    rw [List.forall_mem_cons] at others
    refine Alters.trans ?_ (remove others.1.1 others.1.2) (ih others.2)
    rintro type one two three ⟨fewer, kept⟩ ⟨still, kept'⟩
    exact ⟨still.trans fewer, fun fields inside here => kept' fields (kept fields inside here) here⟩

/-- A request is decided as before without rules that the verdict is not put down to. -/
theorem enforce_eq (reduces : enforcer.Reduces verdict.decidedBy? other) (settled : enforcer.Settled)
    (settled' : other.Settled) (enforced : enforcer.enforce request = .ok verdict) :
    other.enforce request = .ok verdict := by
  have shares := reduces.sharesLinks settled settled'
  have outcomes := funext fun rule => shares.outcome_eq settled'.orderly settled.orderly request rule
  have rules := reduces.rules (fun _ _ => ⟨.refl _, fun _ inside _ => inside⟩)
  rw [settled.ready.enforce_eq] at enforced
  rw [settled'.ready.enforce_eq]
  have deciding : other.state.deciding = other.get enforcer.state.compiled.matcher.type := by
    rw [State.deciding, shares.compiled]
    rfl
  apply State.decision_of_sublist shares.compiled outcomes settled.orderly.sound.nodup_rules _ enforced
  · intro rule explained
    obtain ⟨type, inside⟩ := State.decidedBy?_cases enforced explained
    rw [deciding]
    exact (rules _).2 rule.fields inside (type ▸ explained)
  · rw [deciding]
    exact (rules _).1

end Reduces

namespace Extends

theorem refl (enforcer : Enforcer) : enforcer.Extends enforcer :=
  Alters.refl (fun _ _ => List.prefix_rfl) enforcer

variable [Regex.Engine]

theorem add {rule : Rule} (policy : isGroupingType rule.type = false) :
    enforcer.Extends (enforcer.perform (.add rule.type rule.fields)) := by
  apply Alters.update (fun _ _ => List.prefix_rfl) policy
  intro answer after done
  obtain ⟨table, found, -, ⟨-, -, rfl⟩ | ⟨-, -, rfl⟩⟩ := State.addRule_cases done
  · exact .inl rfl
  · exact .inr ⟨table, _, _, found, List.prefix_append _ _, rfl⟩

theorem run {added : List Rule} (policies : ∀ rule ∈ added, isGroupingType rule.type = false) :
    enforcer.Extends (enforcer.run (added.map fun rule => .add rule.type rule.fields)) := by
  induction added generalizing enforcer with
  | nil => exact refl enforcer
  | cons rule rest ih =>
    rw [List.forall_mem_cons] at policies
    exact Alters.trans (fun _ _ _ _ => List.IsPrefix.trans) (add policies.1) (ih policies.2)

/-- A request is decided as before with rules that come after the one that ended the search. -/
theorem enforce_eq (more : enforcer.Extends other) (settled : enforcer.Settled)
    (settled' : other.Settled) (enforced : enforcer.enforce request = .ok verdict) {rule : Rule}
    (explained : verdict.decidedBy? = some rule)
    (ends : enforcer.state.compiled.effect.combinator = .allowAndDeny →
      enforcer.state.statedEffect rule.fields = .ok .deny) : other.enforce request = .ok verdict := by
  have shares := more.sharesLinks settled settled'
  have outcomes := funext fun rule => shares.outcome_eq settled'.orderly settled.orderly request rule
  rw [settled.ready.enforce_eq] at enforced
  rw [settled'.ready.enforce_eq]
  apply State.decision_of_prefix shares.compiled outcomes _ enforced explained ends
  rw [State.deciding, State.deciding, shares.compiled]
  exact more.rules (fun _ _ => List.prefix_rfl) _

end Extends

/-- A verdict that no further rules can change: it is put down to a rule, and this is one that denies where
allowing and denying rules both count. -/
def Concluded (enforcer : Enforcer) (verdict : Verdict) : Prop :=
  ∃ rule, verdict.decidedBy? = some rule ∧
    (enforcer.state.compiled.effect.combinator = .allowAndDeny →
      enforcer.state.statedEffect rule.fields = .ok .deny)

/-- Whatever the effect expression is, a request is decided as before, by the same rule, when policy rules
are removed that the verdict is not put down to. If the rule that it is put down to ended the search, then
the request is also decided as before when policy rules are added, whatever they come to for it. -/
theorem explanation_suffices [Regex.Engine] (reachable : enforcer.Reachable)
    (enforced : enforcer.enforce request = .ok verdict) :
    (∀ other : Enforcer, other.Reachable → enforcer.Reduces verdict.decidedBy? other →
      other.enforce request = .ok verdict) ∧
    (∀ removed : List Rule,
      (∀ rule ∈ removed, isGroupingType rule.type = false ∧ verdict.decidedBy? ≠ some rule) →
        (enforcer.run (removed.map fun rule => .remove rule.type rule.fields)).enforce request =
          .ok verdict) ∧
    (enforcer.Concluded verdict →
      (∀ other : Enforcer, other.Reachable → enforcer.Extends other →
        other.enforce request = .ok verdict) ∧
      ∀ added : List Rule, (∀ rule ∈ added, isGroupingType rule.type = false) →
        (enforcer.run (added.map fun rule => .add rule.type rule.fields)).enforce request =
          .ok verdict) := by
  have settled := settled_of_reachable reachable
  have reduced (other : Enforcer) (reachable' : other.Reachable)
      (reduces : enforcer.Reduces verdict.decidedBy? other) : other.enforce request = .ok verdict :=
    reduces.enforce_eq settled (settled_of_reachable reachable') enforced
  refine ⟨reduced, ?_, ?_⟩
  · intro removed others
    exact reduced _ (reachable.run _) (.run others)
  · rintro ⟨rule, explained, ends⟩
    have extended (other : Enforcer) (reachable' : other.Reachable) (more : enforcer.Extends other) :
        other.enforce request = .ok verdict :=
      more.enforce_eq settled (settled_of_reachable reachable') enforced explained ends
    refine ⟨extended, ?_⟩
    intro added policies
    exact extended _ (reachable.run _) (.run policies)

end Enforcer

namespace Patterns
open Matcher (patternModel patternMatcher)

/-- The text of the model whose rules hold patterns. -/
def text : String := "r = act\np = act\ne = priority(p.eft)\nm = regexMatch(r.act, p.act)"

/-- The enforcer that is made of the model. -/
def enforcer : Enforcer where
  state := .ofModel ⟨patternModel, patternMatcher, ⟨.priority, false⟩⟩

theorem ofText_text : Model.ofText text = .ok patternModel := by cbv

theorem ofModel_model : Enforcer.ofModel patternModel = .ok enforcer := by
  have matched : Matcher.compile patternModel = .ok patternMatcher := by cbv
  have compiled : CompiledModel.compile patternModel =
      .ok ⟨patternModel, patternMatcher, ⟨.priority, false⟩⟩ :=
    CompiledModel.compile_eq_ok.2 ⟨rfl, matched, by decide +kernel⟩
  exact Result.map_eq_ok.2 ⟨_, compiled, rfl⟩

/-- The enforcer after two patterns have been added. -/
def assigned : Enforcer :=
  Enforcer.run { enforcer with storage? := none } [.add "p" ["write"], .add "p" ["r.*d"]]

theorem reachable_assigned : assigned.Reachable := .intro ofText_text ofModel_model none _

theorem enforce_assigned : assigned.enforce ["read"] = .ok ⟨true, some ⟨"p", ["r.*d"]⟩⟩ := by cbv

end Patterns

namespace Enforcer
open Patterns

/-- The pattern that did not match goes, and what is added is none. -/
theorem explanation_suffices_of_patterns :
    (assigned.run [.remove "p" ["write"]]).enforce ["read"] = .ok ⟨true, some ⟨"p", ["r.*d"]⟩⟩ ∧
    (assigned.run [.add "p" ["("]]).enforce ["read"] = .ok ⟨true, some ⟨"p", ["r.*d"]⟩⟩ := by
  obtain ⟨-, removing, adding⟩ := explanation_suffices reachable_assigned enforce_assigned
  constructor
  · exact removing [⟨"p", ["write"]⟩] (by decide)
  · refine (adding ⟨⟨"p", ["r.*d"]⟩, rfl, ?_⟩).2 [⟨"p", ["("]⟩] (by decide)
    exact nofun

/-- A request fails for what is no pattern where no rule ends the search before. -/
example : (assigned.run [.add "p" ["("]]).enforce ["go"] = .error (.evaluation (.invalidPattern "(")) := by
  cbv

end Enforcer
end AccessControl
