import AccessControl.Proofs.Decision.Scan
import Mathlib.Data.Fintype.EquivFin
/-!
When a tally of matching rules may stop. It says after each rule whether the decision is settled, and it says
so just when no further rules can change the decision or the rule that made it. Therefore a scan may end with
the first rule after which it says so, and from that rule on it says so after each one.
-/
namespace AccessControl

/-- Under every combinator some effect decides. -/
theorem Combinator.exists_decisive (combinator : Combinator) :
    ∃ effect, combinator.decisive effect = true := by
  cases combinator with
  | allowOverride => exact ⟨.allow, rfl⟩
  | denyOverride | allowAndDeny | priority => exact ⟨.deny, rfl⟩

/-- The effect with which a rule matches, if it does. -/
def RuleOutcome.effect? {ε : Type} : RuleOutcome ε → Option Effect
  | matched effect => some effect
  | _ => none

namespace Tally
variable {α ε : Type} {combinator : Combinator} {rule : EffectRule} {counted : Tally α}

/-- What is settled stays as it is, whichever rule comes next. -/
theorem decide_push_of_settled (settled : counted.settled rule.combinator = true) (mark : α)
    (effect : Effect) : (counted.push mark effect).decide rule = counted.decide rule := by
  obtain ⟨combinator, fallback⟩ := rule
  unfold Tally.settled at settled
  unfold push decide
  cases combinator with
  | allowOverride =>
    obtain ⟨first, allowed⟩ := Option.isSome_iff_exists.1 settled
    cases effect <;> simp [allowed]
  | denyOverride | allowAndDeny =>
    obtain ⟨first, denied⟩ := Option.isSome_iff_exists.1 settled
    cases effect <;> simp [denied]
  | priority =>
    obtain ⟨first, came⟩ := Option.isSome_iff_exists.1 settled
    simp [came]

/-- As long as nothing is settled no rule has decided, or one that allows where a later one may still deny. -/
theorem decide_of_unsettled (unsettled : counted.settled rule.combinator = false) :
    counted.decide rule = (rule.fallback, none) ∨
      rule.combinator = .allowAndDeny ∧ (counted.decide rule).1 = true := by
  obtain ⟨combinator, fallback⟩ := rule
  unfold settled at unsettled
  unfold decide
  cases combinator with
  | allowOverride | denyOverride | priority =>
    rw [Option.isSome_eq_false_iff, Option.isNone_iff_eq_none] at unsettled
    simp [unsettled]
  | allowAndDeny =>
    rw [Option.isSome_eq_false_iff, Option.isNone_iff_eq_none] at unsettled
    cases allowed : counted.allow? with
    | none => simp [unsettled]
    | some mark => simp [unsettled]

/-- A rule that decides where nothing is settled makes a difference. -/
theorem decide_push_ne (unsettled : counted.settled rule.combinator = false) {effect : Effect}
    (decisive : rule.combinator.decisive effect = true) (mark : α) :
    (counted.push mark effect).decide rule ≠ counted.decide rule := by
  rw [decide_push unsettled decisive]
  rcases decide_of_unsettled unsettled with undecided | ⟨both, allowed⟩
  · rw [undecided]
    exact fun same => Option.some_ne_none mark (congrArg Prod.snd same)
  · -- Only a deny decides there, and it does not allow.
    intro same
    rw [← same] at allowed
    rw [both] at decisive
    cases effect with
    | allow => cases decisive
    | deny => cases allowed

/-- The tally after some matching rules, which are given by their marks and their effects. -/
def pushAll (counted : Tally α) : List (α × Effect) → Tally α
  | [] => counted
  | (mark, effect) :: rest => (counted.push mark effect).pushAll rest

/-- The tally after some matching rules up to the first one that leaves the decision settled. -/
def pushUntil (combinator : Combinator) (counted : Tally α) : List (α × Effect) → Tally α
  | [] => counted
  | (mark, effect) :: rest =>
    let counted := counted.push mark effect
    if counted.settled combinator then counted else counted.pushUntil combinator rest

/-- What a tally says after each of some matching rules: whether the decision is settled. -/
def signals (combinator : Combinator) (counted : Tally α) : List (α × Effect) → List Bool
  | [] => []
  | (mark, effect) :: rest =>
    let counted := counted.push mark effect
    counted.settled combinator :: counted.signals combinator rest

theorem pushAll_append (counted : Tally α) (matched further : List (α × Effect)) :
    counted.pushAll (matched ++ further) = (counted.pushAll matched).pushAll further := by
  induction matched generalizing counted with
  | nil => rfl
  | cons first rest ih => exact ih (counted.push first.1 first.2)

theorem settled_push_of_settled (settled : counted.settled combinator = true) (mark : α) (effect : Effect) :
    (counted.push mark effect).settled combinator = true := by
  rw [settled_push, settled, Bool.true_or]

/-- What is settled stays as it is, whichever rules come after. -/
theorem decide_pushAll_of_settled (settled : counted.settled rule.combinator = true)
    (further : List (α × Effect)) : (counted.pushAll further).decide rule = counted.decide rule := by
  induction further generalizing counted with
  | nil => rfl
  | cons next rest ih =>
    rw [pushAll, ih (settled_push_of_settled settled _ _)]
    exact decide_push_of_settled settled _ _

/-- The rules after the one that settles the decision may be left out. -/
theorem decide_pushUntil (counted : Tally α) (matched : List (α × Effect)) :
    (counted.pushUntil rule.combinator matched).decide rule = (counted.pushAll matched).decide rule := by
  induction matched generalizing counted with
  | nil => rfl
  | cons first rest ih =>
    rw [pushUntil, pushAll]
    cases settled : (counted.push first.1 first.2).settled rule.combinator with
    | true => exact (decide_pushAll_of_settled settled rest).symm
    | false => exact ih _

/-- The rules that match, with their effects. -/
def matching (outcome : α → RuleOutcome ε) (rules : List α) : List (α × Effect) :=
  rules.filterMap fun mark => (outcome mark).effect?.map (mark, ·)

/-- Where no rule fails, a scan tallies the matching rules up to the one that settles the decision. -/
theorem scan_eq_pushUntil {outcome : α → RuleOutcome ε} {rules : List α}
    (succeeds : ∀ mark ∈ rules, ∀ error, outcome mark ≠ .failed error) (counted : Tally α) :
    counted.scan outcome combinator rules = .ok (counted.pushUntil combinator (matching outcome rules)) := by
  induction rules generalizing counted with
  | nil => rfl
  | cons mark rest ih =>
    have later := ih fun mark inside => succeeds mark (List.mem_cons_of_mem _ inside)
    rw [scan, matching, List.filterMap_cons]
    cases comes : outcome mark with
    | failed error => exact absurd comes (succeeds mark List.mem_cons_self error)
    | skipped => exact later counted
    | matched effect =>
      cases settled : (counted.push mark effect).settled combinator with
      | true => simp only [RuleOutcome.effect?, Option.map_some, pushUntil, settled, if_true]
      | false =>
        simp only [RuleOutcome.effect?, Option.map_some, pushUntil, settled, Bool.false_eq_true, if_false]
        exact later _

/-- The last signal tells whether the decision is settled after all rules. -/
theorem getLast?_signals (counted : Tally α) {matched : List (α × Effect)} (nonempty : matched ≠ []) :
    (counted.signals combinator matched).getLast? = some ((counted.pushAll matched).settled combinator) := by
  induction matched generalizing counted with
  | nil => exact absurd rfl nonempty
  | cons first rest ih =>
    cases rest with
    | nil => rfl
    | cons second later =>
      rw [signals, pushAll, ← ih (counted.push first.1 first.2) (List.cons_ne_nil _ _)]
      exact List.getLast?_cons_cons

theorem signals_of_settled (settled : counted.settled combinator = true) (matched : List (α × Effect)) :
    ∀ signal ∈ counted.signals combinator matched, signal = true := by
  induction matched generalizing counted with
  | nil => exact nofun
  | cons first rest ih =>
    have still := settled_push_of_settled settled first.1 first.2
    rw [signals, List.forall_mem_cons]
    exact ⟨still, ih still⟩

/-- Once the decision is settled it is said to be so after every rule. -/
theorem pairwise_signals (counted : Tally α) (matched : List (α × Effect)) :
    (counted.signals combinator matched).Pairwise fun earlier later => earlier = true → later = true := by
  induction matched generalizing counted with
  | nil => exact .nil
  | cons first rest ih =>
    refine .cons ?_ (ih _)
    exact fun later inside settled => signals_of_settled settled rest later inside

/-- No rules that come after those that have matched, under marks of their own, can change the decision or the
rule that made it. -/
def Final (rule : EffectRule) (matched : List (α × Effect)) : Prop :=
  ∀ further : List (α × Effect), (further.map (·.1)).Nodup →
    (∀ mark ∈ further.map (·.1), mark ∉ matched.map (·.1)) →
      (pushAll {} (matched ++ further)).decide rule = (pushAll {} matched).decide rule

theorem exists_new [Infinite α] (matched : List (α × Effect)) : ∃ mark, mark ∉ matched.map (·.1) := by
  classical
  obtain ⟨mark, outside⟩ := Infinite.exists_notMem_finset (matched.map (·.1)).toFinset
  exact ⟨mark, fun inside => outside (List.mem_toFinset.2 inside)⟩

/-- A decision is final just when it is settled: as long as it is not, one more rule can change it. -/
theorem final_iff_settled [Infinite α] (matched : List (α × Effect)) :
    Final rule matched ↔ (pushAll {} matched).settled rule.combinator = true := by
  constructor
  · intro final
    rw [← Bool.not_eq_false]
    intro unsettled
    obtain ⟨effect, decisive⟩ := rule.combinator.exists_decisive
    obtain ⟨mark, new⟩ := exists_new matched
    have same := final [(mark, effect)] (List.nodup_singleton mark) (by simpa using new)
    rw [pushAll_append] at same
    exact decide_push_ne unsettled decisive mark same
  · intro settled further _ _
    rw [pushAll_append]
    exact decide_pushAll_of_settled settled further

/-- A tally of matching rules says at the right time that it may stop. -/
structure StopsInTime (rule : EffectRule) (matched : List (α × Effect)) : Prop where
  last_iff : (signals rule.combinator {} matched).getLast? = some true ↔ Final rule matched
  stopped : (pushUntil rule.combinator {} matched).decide rule = (pushAll {} matched).decide rule
  lasting : (signals rule.combinator {} matched).Pairwise fun earlier later => earlier = true → later = true

/-- Whichever rules match, with whatever effects and marks: the tally says after the last of them that it may stop
just when no further ones can change the decision or the rule that made it. If it stops where it first says so,
the decision is that of all rules; and if it does not stop, it says so after every rule from there on. -/
theorem stopsInTime_pushed [Infinite α] (rule : EffectRule) (matched : List (α × Effect)) :
    StopsInTime rule matched := by
  refine ⟨?_, decide_pushUntil {} matched, pairwise_signals {} matched⟩
  rw [final_iff_settled]
  cases matched with
  | nil => cases rule.combinator <;> exact iff_of_false nofun nofun
  | cons first rest => rw [getLast?_signals {} (List.cons_ne_nil _ _), Option.some_inj]

/-- Where both effects count, an allow leaves the decision open, whatever is decided without one, and the first
deny makes it final. -/
theorem stopsInTime_of_both :
    EffectRule.ofText? "p" "some(where (p.eft == allow)) && !some(where (p.eft == deny)) || allow" =
      some ⟨.allowAndDeny, true⟩ ∧
    ¬Final ⟨.allowAndDeny, true⟩ [((4 : Nat), .allow)] ∧
    Final ⟨.allowAndDeny, true⟩ [((4 : Nat), .allow), (2, .deny)] := by
  refine ⟨by decide +kernel, ?_, ?_⟩
  · rw [← (stopsInTime_pushed ⟨.allowAndDeny, true⟩ [(4, .allow)]).last_iff]
    decide
  · rw [← (stopsInTime_pushed ⟨.allowAndDeny, true⟩ [(4, .allow), (2, .deny)]).last_iff]
    rfl

end Tally
end AccessControl
