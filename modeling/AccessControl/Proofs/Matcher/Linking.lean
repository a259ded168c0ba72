import AccessControl.Proofs.Matcher.Caching
/-!
What a matcher asks of the role relations. Of all that a relation holds, a term only ever asks whether it
links a member to a role; relations that answer this alike therefore give every term the same value.
-/
namespace AccessControl

namespace Term

/-- Two scopes that differ at most in their relations, which answer alike. -/
structure Agree (one other : Scope) : Prop where
  request : one.request = other.request
  rule : one.rule = other.rule
  linked : ∀ relation member role domain?,
    isLinked one relation member role domain? = isLinked other relation member role domain?

variable [Regex.Engine] {one other : Scope}

mutual

theorem value_congr (agree : Agree one other) (term : Term) : value one term = value other term := by
  cases term with
  | text _ => unfold value; rfl
  | truth _ => unfold value; rfl
  | requestField index => unfold value; rw [agree.request]
  | policyField index => unfold value; rw [agree.rule]
  | linked relation member role =>
    unfold value
    rw [value_congr agree member, value_congr agree role]
    simp only [agree.linked]
  | linkedIn relation member role domain =>
    unfold value
    rw [value_congr agree member, value_congr agree role, value_congr agree domain]
    simp only [agree.linked]
  | builtin function left right =>
    unfold value
    rw [value_congr agree left, value_congr agree right]
  | fits tested regex =>
    unfold value
    rw [value_congr agree tested]
  | equal left right =>
    unfold value
    rw [value_congr agree left, value_congr agree right]
  | unequal left right =>
    unfold value
    rw [value_congr agree left, value_congr agree right]
  | and left right =>
    unfold value
    rw [value_congr agree left, value_congr agree right]
  | or left right =>
    unfold value
    rw [value_congr agree left, value_congr agree right]
  | not operand =>
    unfold value
    rw [value_congr agree operand]
  | within element items =>
    unfold value
    rw [value_congr agree element]
    simp only [isAmong_congr agree]

theorem isAmong_congr (agree : Agree one other) (sought : Value) (items : List Term) :
    isAmong one sought items = isAmong other sought items := by
  cases items with
  | nil => unfold isAmong; rfl
  | cons item rest =>
    unfold isAmong
    rw [value_congr agree item, isAmong_congr agree sought rest]

end

end Term

theorem Matcher.eval_congr [Regex.Engine] (matcher : Matcher) {one other : Scope} (agree : Term.Agree one other) :
    matcher.eval one = matcher.eval other := by
  rw [eval_eq_value, eval_eq_value, value, value, Term.value_congr agree]

end AccessControl
