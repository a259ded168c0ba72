import AccessControl.Proofs.Decision.Scan
import AccessControl.Proofs.Enforcer.Consistency
import AccessControl.Proofs.Matcher.Binding
/-!
Rulings on requests. What each rule of the deciding type comes to is told on its own, with the matcher
evaluated afresh and the effect looked up by its name; the ruling then is a matter of the first rule
that stops the search, and of the first allowing one where both effects count. A decision of an enforcer
is such a ruling, in every state that operations can lead to.
-/
namespace AccessControl

namespace State

/-- The rules that decide, in the order of their insertion. -/
def deciding (state : State) : List (List String) := state.store.rules state.compiled.matcher.type

/-- The effect that a rule states under the name for it. A rule whose type has no such field allows. -/
def statedEffect (state : State) (rule : List String) : Except Error Effect :=
  let names := (state.compiled.model.policies.find? state.compiled.matcher.type).getD []
  match (names.zip rule).lookup Model.effectField with
  | none => .ok .allow
  | some word =>
    match Effect.ofText? word with
    | some effect => .ok effect
    | none => .error (.effectValue word)

section
variable [Regex.Engine]

/-- What a rule comes to for a request. -/
def outcome (state : State) (request rule : List String) : RuleOutcome Error :=
  match state.compiled.matcher.eval ⟨request, rule, state.roles⟩ with
  | .error fault => .failed (.evaluation fault)
  | .ok false => .skipped
  | .ok true =>
    match state.statedEffect rule with
    | .error error => .failed error
    | .ok effect => .matched effect

/-- The first rule that decides or fails. -/
def firstStop? (state : State) (request : List String) : Option (List String) :=
  state.deciding.find? fun rule => (state.outcome request rule).stops state.compiled.effect.combinator

/-- The first rule that matches and allows. -/
def firstAllow? (state : State) (request : List String) : Option (List String) :=
  state.deciding.find? fun rule => (state.outcome request rule).allows

/-- The ruling on a request. -/
inductive Ruling (state : State) (request : List String) : Except Error Verdict → Prop
  | arity (wrong : request.length ≠ state.compiled.model.request.length) :
      Ruling state request
        (.error (.requestArity state.compiled.model.request.length request.length))
  | failed {rule : List String} {error : Error}
      (long : request.length = state.compiled.model.request.length)
      (first : state.firstStop? request = some rule)
      (fails : state.outcome request rule = .failed error) : Ruling state request (.error error)
  | decided {rule : List String} {effect : Effect}
      (long : request.length = state.compiled.model.request.length)
      (first : state.firstStop? request = some rule)
      (matched : state.outcome request rule = .matched effect) :
      Ruling state request (.ok ⟨effect == .allow, some ⟨state.compiled.matcher.type, rule⟩⟩)
  | allowed {rule : List String}
      (long : request.length = state.compiled.model.request.length)
      (undecided : state.firstStop? request = none)
      (both : state.compiled.effect.combinator = .allowAndDeny)
      (first : state.firstAllow? request = some rule) :
      Ruling state request (.ok ⟨true, some ⟨state.compiled.matcher.type, rule⟩⟩)
  | fallback (long : request.length = state.compiled.model.request.length)
      (undecided : state.firstStop? request = none)
      (none : state.compiled.effect.combinator = .allowAndDeny → state.firstAllow? request = none) :
      Ruling state request (.ok ⟨state.compiled.effect.fallback, Option.none⟩)

end

/-- The verdict that a tally of the deciding rules gives. -/
def verdictOf (state : State) (counted : Tally (List String)) : Verdict :=
  let (allowed, decidedBy?) := counted.decide state.compiled.effect
  { allowed, decidedBy? := decidedBy?.map (Rule.mk state.compiled.matcher.type) }

/-- The decision on a request, from what the rules come to. -/
def decision [Regex.Engine] (state : State) (request : List String) : Except Error Verdict :=
  if request.length ≠ state.compiled.model.request.length then
    .error (.requestArity state.compiled.model.request.length request.length)
  else do
    let counted ← Tally.scan (state.outcome request) state.compiled.effect.combinator {} state.deciding
    return state.verdictOf counted

variable {state : State} {request : List String}

theorem verdictOf_eq {counted : Tally (List String)} {allowed : Bool}
    {decidedBy? : Option (List String)}
    (decided : counted.decide state.compiled.effect = (allowed, decidedBy?)) :
    state.verdictOf counted =
      { allowed, decidedBy? := decidedBy?.map (Rule.mk state.compiled.matcher.type) } := by
  unfold verdictOf
  rw [decided]

theorem verdictOf_congr {other : State} (compiled : state.compiled = other.compiled) :
    state.verdictOf = other.verdictOf := by
  funext counted
  unfold verdictOf
  rw [compiled]

section
variable [Regex.Engine]

/-- A ruling is what the scan of the deciding rules comes to. -/
theorem decision_of_ruling {result : Except Error Verdict} (ruling : state.Ruling request result) :
    state.decision request = result := by
  unfold decision
  cases ruling with
  | arity wrong => rw [if_pos wrong]
  | failed long first fails =>
    rw [if_neg (not_not_intro long), Tally.undecided_start.scan_eq_error first fails]
    rfl
  | decided long first matched =>
    obtain ⟨decisive, before, unsettled, scanned⟩ := Tally.undecided_start.scan_eq_push first matched
    rw [if_neg (not_not_intro long), scanned]
    exact congrArg Except.ok (verdictOf_eq (Tally.decide_push unsettled decisive _))
  | allowed long undecided both first =>
    obtain ⟨final, passed, scanned⟩ := Tally.undecided_start.scan_open undecided
    rw [if_neg (not_not_intro long), scanned]
    have verdict := passed.decide_eq
    change state.deciding.find? _ = _ at first
    rw [both, List.nil_append, first] at verdict
    exact congrArg Except.ok (verdictOf_eq verdict)
  | fallback long undecided none =>
    obtain ⟨final, passed, scanned⟩ := Tally.undecided_start.scan_open undecided
    rw [if_neg (not_not_intro long), scanned]
    have verdict := passed.decide_eq
    -- An allowing rule may have been counted, but it counts only where both effects do.
    have silent : final.decide state.compiled.effect = (state.compiled.effect.fallback, Option.none) := by
      rw [verdict]
      cases combinator : state.compiled.effect.combinator with
      | allowAndDeny =>
        have absent := none combinator
        change state.deciding.find? _ = _ at absent
        rw [List.nil_append, absent]
      | allowOverride => rfl
      | denyOverride => rfl
      | priority => rfl
    exact congrArg Except.ok (verdictOf_eq silent)

/-- There is a ruling on every request. -/
theorem exists_ruling (state : State) (request : List String) :
    ∃ result, state.Ruling request result := by
  by_cases long : request.length = state.compiled.model.request.length
  · cases first : state.firstStop? request with
    | some rule =>
      have stop := List.find?_some first
      cases comes : state.outcome request rule with
      | skipped =>
        rw [comes] at stop
        cases stop
      | matched effect => exact ⟨_, .decided long first comes⟩
      | failed error => exact ⟨_, .failed long first comes⟩
    | none =>
      cases allow : state.firstAllow? request with
      | none => exact ⟨_, .fallback long first fun _ => allow⟩
      | some rule =>
        by_cases both : state.compiled.effect.combinator = .allowAndDeny
        · exact ⟨_, .allowed long first both allow⟩
        · exact ⟨_, .fallback long first fun same => absurd same both⟩
  · exact ⟨_, .arity long⟩

theorem decision_eq_iff {result : Except Error Verdict} :
    state.decision request = result ↔ state.Ruling request result := by
  constructor
  · intro decided
    obtain ⟨other, ruling⟩ := exists_ruling state request
    rw [← decided, decision_of_ruling ruling]
    exact ruling
  · exact decision_of_ruling

end

theorem effectIndex?_of_find? {names : List String}
    (named : state.compiled.model.policies.find? state.compiled.matcher.type = some names) :
    state.compiled.effectIndex? = names.idxOf? Model.effectField :=
  Model.policyIndex?_of_find? named Model.effectField

/-- Where the effect stands where it is declared, it is found by its name. -/
theorem effectOf_eq_statedEffect {names rule : List String}
    (named : state.compiled.model.policies.find? state.compiled.matcher.type = some names)
    (long : rule.length = names.length) : state.effectOf rule = state.statedEffect rule := by
  unfold effectOf statedEffect
  simp only [effectIndex?_of_find? named, named, Option.getD_some]
  cases placed : names.idxOf? Model.effectField with
  | none =>
    rw [Expr.lookup_zip_of_not_mem (List.idxOf?_eq_none_iff.1 placed)]
  | some index =>
    obtain ⟨word, looked, stands⟩ := Expr.lookup_zip long placed
    cases read : Effect.ofText? word with
    | some effect => simp only [looked, stands, read]
    | none => simp only [looked, stands, read]

variable [Regex.Engine]

/-- The scan of a rule, in the steps of a decision: the rule is matched, then its effect is read, then
the scan goes on if nothing is settled. -/
theorem scan_cons {rule : List String} (stated : state.effectOf rule = state.statedEffect rule)
    (counted : Tally (List String)) (rest : List (List String)) :
    counted.scan (state.outcome request) state.compiled.effect.combinator (rule :: rest) = (do
      if ← (state.compiled.matcher.eval ⟨request, rule, state.roles⟩).mapError .evaluation then
        let effect ← state.effectOf rule
        let counted := counted.push rule effect
        if counted.settled state.compiled.effect.combinator then return counted
        else counted.scan (state.outcome request) state.compiled.effect.combinator rest
      else counted.scan (state.outcome request) state.compiled.effect.combinator rest) := by
  rw [Tally.scan, outcome, stated]
  rcases state.compiled.matcher.eval ⟨request, rule, state.roles⟩ with fault | matched
  · rfl
  · cases matched with
    | false => rfl
    | true =>
      cases state.statedEffect rule with
      | error error => rfl
      | ok effect => rfl

/-- What the rules come to is what the scan with a cache finds out about them. -/
theorem yields_tally {rules : List (List String)} (counted : Tally (List String))
    (stated : ∀ rule ∈ rules, state.effectOf rule = state.statedEffect rule) :
    Yields (state.tally request counted rules)
      (counted.scan (state.outcome request) state.compiled.effect.combinator rules) := by
  induction rules generalizing counted with
  | nil => exact .ok counted
  | cons rule rest ih =>
    have later := fun counted => ih counted fun other inside =>
      stated other (List.mem_cons_of_mem _ inside)
    have matching :=
      (state.compiled.matcher.yields_run ⟨request, rule, state.roles⟩).adapt Error.evaluation
    rw [← Matcher.eval_eq_value] at matching
    rw [scan_cons (stated rule List.mem_cons_self)]
    unfold tally
    apply matching.bind
    intro matched _
    cases matched with
    | false => exact later counted
    | true =>
      apply Yields.bind (.lift (state.effectOf rule))
      intro effect _
      by_cases settled : (counted.push rule effect).settled state.compiled.effect.combinator = true
      · simp only [settled, if_true]
        exact .ok _
      · simp only [settled]
        exact later (counted.push rule effect)

/-- A decision with a cache is the one that the rules come to. -/
theorem yields_enforce
    (stated : ∀ rule ∈ state.deciding, state.effectOf rule = state.statedEffect rule) :
    Yields (state.enforce request) (state.decision request) := by
  unfold enforce decision
  by_cases long : request.length = state.compiled.model.request.length
  · have tallied : Yields (state.tally request {} state.deciding) _ := yields_tally {} stated
    simp only [if_neg (not_not_intro long)]
    apply tallied.bind
    intro counted _
    exact .ok (state.verdictOf counted)
  · simp only [if_pos long]
    intro cache coherent
    exact ⟨cache, rfl, coherent⟩

end State
end AccessControl
