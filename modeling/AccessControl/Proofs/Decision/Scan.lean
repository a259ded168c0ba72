import AccessControl.Decision
/-!
Scans of rules for a decision. What the rules come to is given for each of them; a scan tallies them
one after another and ends at the first one that settles the decision or fails. Up to there the tally
knows no more than which rule has been the first to allow, and that only where it may still matter.
-/
namespace AccessControl

/-- What a rule comes to for a request. -/
inductive RuleOutcome (ε : Type) where
  | skipped
  | matched (effect : Effect)
  | failed (error : ε)

/-- Whether a matching rule of this effect decides. -/
def Combinator.decisive : Combinator → Effect → Bool
  | .allowOverride, effect => effect == .allow
  | .denyOverride, effect | .allowAndDeny, effect => effect == .deny
  | .priority, _ => true

namespace RuleOutcome
variable {ε : Type}

/-- Whether no later rule counts after one of this outcome. -/
def stops (combinator : Combinator) : RuleOutcome ε → Bool
  | skipped => false
  | matched effect => combinator.decisive effect
  | failed _ => true

def allows : RuleOutcome ε → Bool
  | matched .allow => true
  | _ => false

end RuleOutcome

namespace Tally
variable {α ε : Type} {combinator : Combinator} {outcome : α → RuleOutcome ε}

theorem settled_push (counted : Tally α) (mark : α) (effect : Effect) :
    (counted.push mark effect).settled combinator =
      (counted.settled combinator || combinator.decisive effect) := by
  unfold push settled Combinator.decisive
  cases combinator with
  | allowOverride => cases effect <;> cases counted.allow? <;> rfl
  | denyOverride => cases effect <;> cases counted.deny? <;> rfl
  | allowAndDeny => cases effect <;> cases counted.deny? <;> rfl
  | priority => cases counted.first? <;> rfl

/-- A rule that decides where nothing was settled before makes the decision. -/
theorem decide_push {counted : Tally α} {rule : EffectRule} {effect : Effect}
    (unsettled : counted.settled rule.combinator = false)
    (decisive : rule.combinator.decisive effect = true) (mark : α) :
    (counted.push mark effect).decide rule = (effect == .allow, some mark) := by
  obtain ⟨combinator, fallback⟩ := rule
  unfold settled at unsettled
  unfold Combinator.decisive at decisive
  unfold push decide
  cases combinator with
  | allowOverride =>
    have allowed : effect = .allow := by simpa using decisive
    have absent : counted.allow? = none := by simpa using unsettled
    simp [allowed, absent]
  | denyOverride =>
    have denied : effect = .deny := by simpa using decisive
    have absent : counted.deny? = none := by simpa using unsettled
    simp [denied, absent]
  | allowAndDeny =>
    have denied : effect = .deny := by simpa using decisive
    have absent : counted.deny? = none := by simpa using unsettled
    simp [denied, absent]
  | priority =>
    have absent : counted.first? = none := by simpa using unsettled
    simp [absent]

/-- Tallies rules by their outcomes, up to the one that settles the decision or fails. -/
def scan (outcome : α → RuleOutcome ε) (combinator : Combinator) (counted : Tally α) :
    List α → Except ε (Tally α)
  | [] => .ok counted
  | mark :: rest =>
    match outcome mark with
    | .skipped => counted.scan outcome combinator rest
    | .failed error => .error error
    | .matched effect =>
      let counted := counted.push mark effect
      if counted.settled combinator then .ok counted else counted.scan outcome combinator rest

/-- A scan depends on what the rules come to, and on nothing else that they are. -/
theorem scan_congr {other : α → RuleOutcome ε} {rules : List α}
    (same : ∀ mark ∈ rules, outcome mark = other mark) (counted : Tally α) :
    counted.scan outcome combinator rules = counted.scan other combinator rules := by
  induction rules generalizing counted with
  | nil => rfl
  | cons mark rest ih =>
    have later := ih fun mark inside => same mark (List.mem_cons_of_mem _ inside)
    rw [scan, scan, same mark List.mem_cons_self]
    cases other mark with
    | skipped => exact later counted
    | failed error => rfl
    | matched effect => simp only [later]

/-- Rules that do not match may be left out of a scan. -/
theorem scan_filter {keep : α → Bool} {rules : List α}
    (skipped : ∀ mark ∈ rules, keep mark = false → outcome mark = .skipped) (counted : Tally α) :
    counted.scan outcome combinator rules = counted.scan outcome combinator (rules.filter keep) := by
  induction rules generalizing counted with
  | nil => rfl
  | cons mark rest ih =>
    have later := ih fun mark inside => skipped mark (List.mem_cons_of_mem _ inside)
    cases kept : keep mark with
    | false =>
      rw [List.filter_cons_of_neg (by simp [kept]), scan, skipped mark List.mem_cons_self kept]
      exact later counted
    | true =>
      rw [List.filter_cons_of_pos kept, scan, scan]
      simp only [later]

/-- The tally of rules none of which stops the scan: nothing is settled, and where an allowing rule may
still decide in the end, it is the first one. -/
structure Undecided (outcome : α → RuleOutcome ε) (combinator : Combinator) (seen : List α)
    (counted : Tally α) : Prop where
  unsettled : counted.settled combinator = false
  allowed : combinator = .allowAndDeny → counted.allow? = seen.find? fun mark => (outcome mark).allows

theorem undecided_start : Undecided outcome combinator [] {} := by
  refine ⟨?_, fun _ => rfl⟩
  cases combinator <;> rfl

namespace Undecided
variable {seen rest : List α} {counted : Tally α}
  (undecided : Undecided outcome combinator seen counted)
include undecided

/-- A rule that does not stop the scan leaves the decision open. -/
theorem step {mark : α} (passed : (outcome mark).stops combinator = false) :
    ∃ later, Undecided outcome combinator (seen ++ [mark]) later ∧
      ∀ rest, counted.scan outcome combinator (mark :: rest) = later.scan outcome combinator rest := by
  cases same : outcome mark with
  | skipped =>
    refine ⟨counted, ⟨undecided.unsettled, ?_⟩, ?_⟩
    · intro both
      rw [undecided.allowed both, List.find?_append]
      simp [same, RuleOutcome.allows]
    · intro rest
      rw [scan, same]
  | failed error =>
    rw [same] at passed
    cases passed
  | matched effect =>
    have indecisive : combinator.decisive effect = false := by
      rw [same] at passed
      exact passed
    have unsettled : (counted.push mark effect).settled combinator = false := by
      rw [settled_push, undecided.unsettled, indecisive]
      rfl
    refine ⟨counted.push mark effect, ⟨unsettled, ?_⟩, ?_⟩
    · intro both
      -- Where both effects count, a deny would have decided.
      have allowing : effect = .allow := by
        subst both
        cases effect with
        | allow => rfl
        | deny => cases indecisive
      subst allowing
      rw [List.find?_append, ← undecided.allowed both]
      simp [push, same, RuleOutcome.allows]
    · intro rest
      rw [scan, same]
      simp only [unsettled, Bool.false_eq_true, if_false]

/-- A scan comes to the first rule that stops it with the decision still open. -/
theorem scan_reach {mark : α}
    (first : rest.find? (fun mark => (outcome mark).stops combinator) = some mark) :
    ∃ passed before after, Undecided outcome combinator passed before ∧
      counted.scan outcome combinator rest = before.scan outcome combinator (mark :: after) := by
  -- Along the way the rules that were passed are counted, hence the generalization over them.
  induction rest generalizing seen counted with
  | nil => cases first
  | cons head tail ih =>
    rw [List.find?_cons] at first
    cases stop : (outcome head).stops combinator with
    | true =>
      rw [stop] at first
      cases first
      exact ⟨seen, counted, tail, undecided, rfl⟩
    | false =>
      rw [stop] at first
      obtain ⟨later, still, same⟩ := undecided.step stop
      rw [same]
      exact ih still first

/-- A scan fails with the first rule that stops it, if that rule fails. -/
theorem scan_eq_error {mark : α} {error : ε}
    (first : rest.find? (fun mark => (outcome mark).stops combinator) = some mark)
    (fails : outcome mark = .failed error) :
    counted.scan outcome combinator rest = .error error := by
  obtain ⟨_, before, after, -, same⟩ := undecided.scan_reach first
  rw [same, scan, fails]

/-- A scan ends with the first rule that stops it, if that rule matches; nothing was settled before. -/
theorem scan_eq_push {mark : α} {effect : Effect}
    (first : rest.find? (fun mark => (outcome mark).stops combinator) = some mark)
    (matched : outcome mark = .matched effect) :
    combinator.decisive effect = true ∧ ∃ before : Tally α, before.settled combinator = false ∧
      counted.scan outcome combinator rest = .ok (before.push mark effect) := by
  obtain ⟨_, before, after, still, same⟩ := undecided.scan_reach first
  have decisive : combinator.decisive effect = true := by
    have stop := List.find?_some first
    rw [matched] at stop
    exact stop
  have settled : (before.push mark effect).settled combinator = true := by
    rw [settled_push, decisive, Bool.or_true]
  refine ⟨decisive, before, still.unsettled, ?_⟩
  rw [same, scan, matched]
  simp only [settled, if_true]

/-- A scan that no rule stops leaves the decision open. -/
theorem scan_open (passed : rest.find? (fun mark => (outcome mark).stops combinator) = none) :
    ∃ final, Undecided outcome combinator (seen ++ rest) final ∧
      counted.scan outcome combinator rest = .ok final := by
  induction rest generalizing seen counted with
  | nil =>
    rw [List.append_nil]
    exact ⟨counted, undecided, rfl⟩
  | cons head tail ih =>
    rw [List.find?_cons] at passed
    cases stop : (outcome head).stops combinator with
    | true =>
      rw [stop] at passed
      cases passed
    | false =>
      rw [stop] at passed
      obtain ⟨next, still, same⟩ := undecided.step stop
      obtain ⟨final, done, scanned⟩ := ih still passed
      rw [List.append_assoc] at done
      refine ⟨final, done, ?_⟩
      rw [same]
      exact scanned

end Undecided

/-- Without a deciding rule the decision is the fallback, but for the first allowing rule where both
effects count. -/
theorem Undecided.decide_eq {seen : List α} {counted : Tally α} {rule : EffectRule}
    (undecided : Undecided outcome rule.combinator seen counted) :
    counted.decide rule =
      match rule.combinator, seen.find? fun mark => (outcome mark).allows with
      | .allowAndDeny, some mark => (true, some mark)
      | _, _ => (rule.fallback, none) := by
  obtain ⟨combinator, fallback⟩ := rule
  obtain ⟨unsettled, allowed⟩ := undecided
  unfold settled at unsettled
  unfold decide
  cases combinator with
  | allowOverride =>
    have absent : counted.allow? = none := by simpa using unsettled
    simp only [absent]
  | denyOverride =>
    have absent : counted.deny? = none := by simpa using unsettled
    simp only [absent]
  | allowAndDeny =>
    have absent : counted.deny? = none := by simpa using unsettled
    simp only [absent, allowed rfl]
    cases seen.find? fun mark => (outcome mark).allows with
    | some mark => rfl
    | none => rfl
  | priority =>
    have absent : counted.first? = none := by simpa using unsettled
    simp only [absent]

end Tally
end AccessControl
