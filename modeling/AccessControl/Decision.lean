import AccessControl.Rule
import AccessControl.Text.Layout
/-!
Effect expressions: how the effects of the matching rules become one decision. The matching rules
are tallied in order, each under a mark that tells it from the others; the decision names the rule
that made it, if a rule did. A tally says when no further rule can change the decision.
-/
namespace AccessControl

/-- Which of the matching rules decides. -/
inductive Combinator where
  /-- The first rule that allows. -/
  | allowOverride
  /-- The first rule that denies. -/
  | denyOverride
  /-- The first rule that denies, or else the first one that allows. -/
  | allowAndDeny
  /-- The first rule. -/
  | priority
deriving DecidableEq, Repr, Inhabited

/-- A combinator together with the decision when no rule decides. -/
structure EffectRule where
  combinator : Combinator
  fallback : Bool
deriving DecidableEq, Repr, Inhabited

namespace EffectRule
open Text

/-- The expression of a combinator over a policy type, without blanks. -/
def pattern (type : String) : Combinator → String
  | .allowOverride => "some(where(" ++ type ++ ".eft==allow))"
  | .denyOverride => "!some(where(" ++ type ++ ".eft==deny))"
  | .allowAndDeny => "some(where(" ++ type ++ ".eft==allow))&&!some(where(" ++ type ++ ".eft==deny))"
  | .priority => "priority(" ++ type ++ ".eft)"

def readCombinator? (type : String) (body : List Char) : Option Combinator :=
  [.allowOverride, .denyOverride, .allowAndDeny, .priority].find? fun combinator =>
    (pattern type combinator).toList == body

/-- The text before a given end. -/
def before? (ending : String) (text : List Char) : Option (List Char) :=
  if ending.toList.isSuffixOf text then some (text.take (text.length - ending.length)) else none

/-- Parts an expression from the decision that it states for the case that no rule decides. -/
def splitElse (text : List Char) : List Char × Option Bool :=
  match before? "||allow" text with
  | some body => (body, some true)
  | none =>
    match before? "||deny" text with
    | some body => (body, some false)
    | none => (text, none)

/-- The rule that an expression over a policy type stands for. Blanks do not count. A deny override
already says what happens without a deciding rule, so it takes no other statement of it. -/
def ofText? (type : String) (expression : String) : Option EffectRule :=
  let (body, stated?) := splitElse (expression.toList.filter fun c => !isSpace c)
  match readCombinator? type body, stated? with
  | none, _ => none
  | some .denyOverride, none => some ⟨.denyOverride, true⟩
  | some .denyOverride, some _ => none
  | some combinator, stated? => some ⟨combinator, stated?.getD false⟩

end EffectRule

/-- The first matching rule, the first that allows and the first that denies, by their marks. -/
structure Tally (α : Type) where
  first? : Option (α × Effect) := none
  allow? : Option α := none
  deny? : Option α := none
deriving DecidableEq, Repr

namespace Tally
variable {α : Type}

/-- Whether no further rule can change the decision. -/
def settled (tally : Tally α) : Combinator → Bool
  | .allowOverride => tally.allow?.isSome
  | .denyOverride | .allowAndDeny => tally.deny?.isSome
  | .priority => tally.first?.isSome

def push (tally : Tally α) (mark : α) (effect : Effect) : Tally α where
  first? := tally.first? <|> some (mark, effect)
  allow? := if effect = .allow then tally.allow? <|> some mark else tally.allow?
  deny? := if effect = .deny then tally.deny? <|> some mark else tally.deny?

def decide (tally : Tally α) (rule : EffectRule) : Bool × Option α :=
  match rule.combinator with
  | .allowOverride =>
    match tally.allow? with
    | some mark => (true, some mark)
    | none => (rule.fallback, none)
  | .denyOverride =>
    match tally.deny? with
    | some mark => (false, some mark)
    | none => (rule.fallback, none)
  | .allowAndDeny =>
    match tally.deny?, tally.allow? with
    | some mark, _ => (false, some mark)
    | none, some mark => (true, some mark)
    | none, none => (rule.fallback, none)
  | .priority =>
    match tally.first? with
    | some (mark, effect) => (effect == .allow, some mark)
    | none => (rule.fallback, none)

end Tally
end AccessControl
