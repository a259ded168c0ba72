import AccessControl.Proofs.Decision.Stopping
import AccessControl.Proofs.Enforcer.Ruling
/-!
Decisions of enforcers. An enforcer that operations have led to is ready to decide: its state is sound,
its matcher is the one of its model, and its patterns are what they were compiled from. Therefore its
decisions are rulings, and none of them fails for want of a field or of an effect.
-/
namespace AccessControl

/-- The effect of a stored rule can be read. -/
theorem State.Sound.exists_effectOf {state : State} (sound : state.Sound) {rule names : List String}
    (named : state.compiled.model.policies.find? state.compiled.matcher.type = some names)
    (inside : rule ∈ state.deciding) : ∃ effect, state.effectOf rule = .ok effect := by
  obtain ⟨-, -, stated⟩ := sound.policy_rule named inside
  unfold effectOf
  rw [effectIndex?_of_find? named]
  cases placed : names.idxOf? Model.effectField with
  | none => exact ⟨.allow, rfl⟩
  | some index =>
    rcases stated index placed with allow | deny
    · exact ⟨.allow, by simp only [allow]; rfl⟩
    · exact ⟨.deny, by simp only [deny]; rfl⟩

/-- Where no rule fails, a decision is that of all rules that match. -/
theorem State.decision_eq_pushAll [Regex.Engine] {state : State} {request : List String}
    (long : request.length = state.compiled.model.request.length)
    (succeeds : ∀ rule ∈ state.deciding, ∀ error, state.outcome request rule ≠ .failed error) :
    state.decision request = .ok (state.verdictOf
      (Tally.pushAll {} (Tally.matching (state.outcome request) state.deciding))) := by
  rw [decision, if_neg (not_not_intro long), Tally.scan_eq_pushUntil succeeds]
  refine congrArg Except.ok ?_
  unfold verdictOf
  rw [Tally.decide_pushUntil]

namespace Enforcer

section
variable [Regex.Engine]

/-- An enforcer in whose state the compiled model is that of the model and whose patterns are what their
texts compile to. -/
structure Ready (enforcer : Enforcer) : Prop where
  sound : enforcer.state.Sound
  compiles : CompiledModel.compile enforcer.model = .ok enforcer.state.compiled
  coherent : enforcer.patterns.Coherent

variable {enforcer after : Enforcer}

namespace Ready
variable (ready : enforcer.Ready)
include ready

theorem exists_typed : ∃ names,
    enforcer.model.policies.find? enforcer.state.compiled.matcher.type = some names := by
  obtain ⟨-, matched, -⟩ := CompiledModel.compile_eq_ok.1 ready.compiles
  obtain ⟨expr, -, selected, -⟩ := Matcher.compile_eq_ok.1 matched
  exact Matcher.find?_of_typeOf selected

/-- The effect that a stored rule states is one. -/
theorem exists_statedEffect {rule : List String} (inside : rule ∈ enforcer.state.deciding) :
    ∃ effect, enforcer.state.statedEffect rule = .ok effect := by
  obtain ⟨names, named⟩ := ready.exists_typed
  rw [← State.effectOf_eq_statedEffect named (ready.sound.policy_rule named inside).1]
  exact ready.sound.exists_effectOf named inside

theorem yields (request : List String) :
    Yields (enforcer.state.enforce request) (enforcer.state.decision request) := by
  obtain ⟨names, named⟩ := ready.exists_typed
  apply State.yields_enforce
  intro rule inside
  exact State.effectOf_eq_statedEffect named (ready.sound.policy_rule named inside).1

theorem enforce_eq (request : List String) :
    enforcer.enforce request = enforcer.state.decision request := by
  obtain ⟨patterns, decided, -⟩ := ready.yields request enforcer.patterns ready.coherent
  show ((enforcer.state.enforce request).run enforcer.patterns).1 = _
  rw [decided]

end Ready

/-- Every operation keeps an enforcer ready. -/
theorem ready_next (ready : enforcer.Ready) (next : enforcer.Next after) : after.Ready := by
  have sound := sound_next ready.sound next
  cases next with
  -- Changes and reloads keep the compiled model and therefore the patterns of its matcher.
  | changed leads => exact ⟨sound, leads.compiles ready.compiles, ready.coherent⟩
  | reloaded leads => exact ⟨sound, leads.compiles ready.compiles, ready.coherent⟩
  | replaced read compiles leads =>
    have again := CompiledModel.compile_compiled compiles
    exact ⟨sound, leads.compiles again, PatternCache.coherent_empty⟩
  | decided request =>
    obtain ⟨patterns, decided, coherent⟩ := ready.yields request enforcer.patterns ready.coherent
    refine ⟨sound, ready.compiles, ?_⟩
    show ((enforcer.state.enforce request).run enforcer.patterns).2.Coherent
    rw [decided]
    exact coherent

theorem ready_of_reachable (reachable : enforcer.Reachable) : enforcer.Ready := by
  apply reachable_induction (motive := Ready) _ ready_next reachable
  intro text model compiled storage? read compiles
  have again := CompiledModel.compile_compiled compiles
  exact ⟨State.sound_ofText read compiles, again, PatternCache.coherent_empty⟩

/-- A stored rule fails for a request only if the matcher does, and not for want of a field. -/
theorem Ready.fault_of_failed (ready : enforcer.Ready) {request rule : List String} {error : Error}
    (long : request.length = enforcer.model.request.length) (inside : rule ∈ enforcer.state.deciding)
    (fails : enforcer.state.outcome request rule = .failed error) :
    ∃ fault, error = .evaluation fault ∧ ∀ index, fault ≠ .absentField index := by
  obtain ⟨names, named⟩ := ready.exists_typed
  obtain ⟨-, matched, -⟩ := CompiledModel.compile_eq_ok.1 ready.compiles
  obtain ⟨expr, -, -, bound⟩ := Matcher.compile_eq_ok.1 matched
  have lengths := (ready.sound.policy_rule named inside).1
  have fits : Scope.Fits ⟨request, rule, enforcer.state.roles⟩ _ _ names := ⟨named, long, lengths⟩
  have agrees := Matcher.agrees_value fits bound
  rw [← Matcher.eval_eq_value] at agrees
  unfold State.outcome at fails
  cases evaluated : enforcer.state.compiled.matcher.eval ⟨request, rule, enforcer.state.roles⟩ with
  | error fault =>
    rw [evaluated] at fails agrees
    cases fails
    refine ⟨fault, rfl, ?_⟩
    intro index same
    subst same
    exact agrees.bound agrees.same.symm
  | ok matches' =>
    obtain ⟨effect, stated⟩ := ready.exists_statedEffect inside
    rw [evaluated] at fails
    cases matches' with
    | false => cases fails
    | true =>
      simp only [stated] at fails
      cases fails

/-- A decision does not look at the rules after the one that settles it. Unless one of them would fail this does
not show: the decision is that of all rules that match. -/
theorem enforce_unstopped (reachable : enforcer.Reachable) {request : List String}
    (long : request.length = enforcer.model.request.length)
    (succeeds : ∀ rule ∈ enforcer.state.deciding, ∀ error, enforcer.state.outcome request rule ≠ .failed error) :
    enforcer.enforce request = .ok (enforcer.state.verdictOf
      (Tally.pushAll {} (Tally.matching (enforcer.state.outcome request) enforcer.state.deciding))) := by
  rw [(ready_of_reachable reachable).enforce_eq request]
  exact State.decision_eq_pushAll long succeeds

/-- Whatever operations have led to an enforcer, its decision on a request is the ruling; and it fails
only for the length of the request or for a fault of the matcher, but never for a field that is not
there and never for an effect that cannot be read. -/
theorem enforce_ruling (reachable : enforcer.Reachable) (request : List String) :
    (∀ result, enforcer.enforce request = result ↔ enforcer.state.Ruling request result) ∧
      ∀ error, enforcer.enforce request = .error error →
        error = .requestArity enforcer.model.request.length request.length ∨
          ∃ fault, error = .evaluation fault ∧ ∀ index, fault ≠ .absentField index := by
  have ready := ready_of_reachable reachable
  rw [ready.enforce_eq request]
  refine ⟨fun result => State.decision_eq_iff, ?_⟩
  intro error failed
  cases State.decision_eq_iff.1 failed with
  | arity wrong => exact .inl rfl
  | failed long first fails => exact .inr (ready.fault_of_failed long (List.mem_of_find?_eq_some first) fails)

end

/-- A rule that is removed and added again comes after the others, so that another one decides. -/
theorem enforce_ruling_of_tenants :
    (run { Tenants.enforcer with storage? := none }
      [.add "p" ["alice", "one", "allow"], .add "p" ["alice", "one", "deny"],
        .remove "p" ["alice", "one", "allow"], .add "p" ["alice", "one", "allow"]]).state.Ruling
      ["alice", "one"] (.ok ⟨false, some ⟨"p", ["alice", "one", "deny"]⟩⟩) := by
  have reachable := Reachable.intro Tenants.ofText_text Tenants.ofModel_model none
    [.add "p" ["alice", "one", "allow"], .add "p" ["alice", "one", "deny"],
      .remove "p" ["alice", "one", "allow"], .add "p" ["alice", "one", "allow"]]
  apply ((enforce_ruling reachable ["alice", "one"]).1 _).1
  rfl

end Enforcer
end AccessControl
