import AccessControl.Proofs.Enforcer.Ruling
/-!
Which effects are present among the matching rules. Unless the first matching rule decides, an answer only
depends on whether some rule allows and on whether some rule denies: where the search for them ends depends on
the order of the rules, but not whether it comes to one.
-/
namespace AccessControl

namespace EffectRule
variable {rule : EffectRule} {present : Effect → Bool}

/-- The answer that follows from the effects that are present among the matching rules. Where the first of
these rules decides, none does. -/
def settle? (rule : EffectRule) (present : Effect → Bool) : Option Bool :=
  match rule.combinator with
  | .allowOverride => some (present .allow || rule.fallback)
  | .denyOverride => some (!present .deny && rule.fallback)
  | .allowAndDeny => some (!present .deny && (present .allow || rule.fallback))
  | .priority => none

theorem settle?_of_decisive {effect : Effect} (unordered : rule.combinator ≠ .priority)
    (decisive : rule.combinator.decisive effect = true) (here : present effect = true) :
    rule.settle? present = some (effect == .allow) := by
  obtain ⟨combinator, fallback⟩ := rule
  cases combinator with
  | priority => exact absurd rfl unordered
  | allowOverride =>
    cases effect with
    | allow => simp [settle?, here]
    | deny => cases decisive
  | denyOverride | allowAndDeny =>
    cases effect with
    | allow => cases decisive
    | deny => simp [settle?, here]

theorem settle?_of_allowed (both : rule.combinator = .allowAndDeny) (undenied : present .deny = false)
    (allowed : present .allow = true) : rule.settle? present = some true := by
  simp [settle?, both, undenied, allowed]

theorem settle?_of_absent (unordered : rule.combinator ≠ .priority)
    (absent : ∀ effect, rule.combinator.decisive effect = true → present effect = false)
    (unallowed : rule.combinator = .allowAndDeny → present .allow = false) :
    rule.settle? present = some rule.fallback := by
  obtain ⟨combinator, fallback⟩ := rule
  cases combinator with
  | priority => exact absurd rfl unordered
  | allowOverride => simp [settle?, absent .allow rfl]
  | denyOverride => simp [settle?, absent .deny rfl]
  | allowAndDeny => simp [settle?, absent .deny rfl, unallowed rfl]

end EffectRule

/-- Whether a rule matches with an effect. -/
def RuleOutcome.has {ε : Type} (effect : Effect) : RuleOutcome ε → Bool
  | matched other => other == effect
  | _ => false

theorem RuleOutcome.has_eq_true {ε : Type} {effect : Effect} {outcome : RuleOutcome ε} :
    outcome.has effect = true ↔ outcome = .matched effect := by
  cases outcome <;> simp [has]

theorem RuleOutcome.allows_eq_true {ε : Type} {outcome : RuleOutcome ε} :
    outcome.allows = true ↔ outcome = .matched .allow := by
  match outcome with
  | .matched .allow | .matched .deny | .skipped | .failed _ => simp [allows]

namespace State
variable [Regex.Engine] {state : State} {request : List String}

/-- Whether a rule that decides matches with an effect. -/
def isPresent (state : State) (request : List String) (effect : Effect) : Bool :=
  state.deciding.any fun rule => (state.outcome request rule).has effect

theorem isPresent_eq_true {effect : Effect} : state.isPresent request effect = true ↔
    ∃ rule ∈ state.deciding, state.outcome request rule = .matched effect := by
  simp only [isPresent, List.any_eq_true, RuleOutcome.has_eq_true]

/-- Where no rule stops the search, no effect is present that would. -/
theorem absent_of_undecided (undecided : state.firstStop? request = none) {effect : Effect}
    (decisive : state.compiled.effect.combinator.decisive effect = true) :
    state.isPresent request effect = false := by
  rw [← Bool.not_eq_true, isPresent_eq_true]
  rintro ⟨rule, inside, matched⟩
  refine List.find?_eq_none.1 undecided rule inside ?_
  rw [matched]
  exact decisive

/-- A verdict is settled by the effects that are present. -/
theorem settle?_of_ruling (unordered : state.compiled.effect.combinator ≠ .priority) {verdict : Verdict}
    (ruling : state.Ruling request (.ok verdict)) :
    state.compiled.effect.settle? (state.isPresent request) = some verdict.allowed := by
  cases ruling with
  | decided long first matched =>
    have decisive := List.find?_some first
    rw [matched] at decisive
    refine EffectRule.settle?_of_decisive unordered decisive ?_
    exact isPresent_eq_true.2 ⟨_, List.mem_of_find?_eq_some first, matched⟩
  | @allowed rule long undecided both first =>
    have allows := List.find?_some first
    refine EffectRule.settle?_of_allowed both (absent_of_undecided undecided (by rw [both]; rfl)) ?_
    exact isPresent_eq_true.2 ⟨rule, List.mem_of_find?_eq_some first, RuleOutcome.allows_eq_true.1 allows⟩
  | fallback long undecided none =>
    refine EffectRule.settle?_of_absent unordered (fun _ => absent_of_undecided undecided) ?_
    intro both
    rw [← Bool.not_eq_true, isPresent_eq_true]
    rintro ⟨rule, inside, matched⟩
    exact List.find?_eq_none.1 (none both) rule inside (RuleOutcome.allows_eq_true.2 matched)

/-- A rule does not fail if the matcher can be evaluated on it and its effect can be read. -/
theorem outcome_ne_failed {rule : List String} {answer : Bool} {effect : Effect}
    (evaluated : state.compiled.matcher.eval ⟨request, rule, state.roles⟩ = .ok answer)
    (stated : state.statedEffect rule = .ok effect) (error : Error) :
    state.outcome request rule ≠ .failed error := by
  unfold outcome
  simp only [evaluated, stated]
  cases answer with
  | false => exact nofun
  | true => exact nofun

/-- There is a verdict on a request where no rule fails. -/
theorem exists_ruling_ok (long : request.length = state.compiled.model.request.length)
    (succeeds : ∀ rule ∈ state.deciding, ∀ error, state.outcome request rule ≠ .failed error) :
    ∃ verdict, state.Ruling request (.ok verdict) := by
  obtain ⟨result, ruling⟩ := exists_ruling state request
  cases result with
  | ok verdict => exact ⟨verdict, ruling⟩
  | error error =>
    cases ruling with
    | arity wrong => exact absurd long wrong
    | failed _ first fails => exact absurd fails (succeeds _ (List.mem_of_find?_eq_some first) error)

end State
end AccessControl
