/-!
Rules and rule sets. A rule is a type name with its fields. A rule set holds a whole policy as it
is stored: the policy rules and, apart from them, the grouping rules that link members to roles.
-/
namespace AccessControl

inductive Effect where
  | allow
  | deny
deriving DecidableEq, Repr, Inhabited

namespace Effect

/-- The word for an effect in a rule field. -/
def text : Effect → String
  | allow => "allow"
  | deny => "deny"

/-- The effect named by a rule field; only the two words themselves name one. -/
def ofText? (word : String) : Option Effect :=
  if word = "allow" then some allow else if word = "deny" then some deny else none

theorem ofText?_text (effect : Effect) : ofText? effect.text = some effect := by
  cases effect <;> decide

theorem text_of_ofText? {word : String} {effect : Effect} (read : ofText? word = some effect) :
    effect.text = word := by
  unfold ofText? at read
  split at read
  next same => simp at read; subst read; exact same.symm
  next =>
    split at read
    next same => simp at read; subst read; exact same.symm
    next => simp at read

end Effect

/-- A stored rule: its type and its fields in order. -/
structure Rule where
  type : String
  fields : List String
deriving DecidableEq, Repr, Inhabited

/-- Grouping types are those whose name starts with the letter g. -/
def isGroupingType (type : String) : Bool := type.toList.head? == some 'g'

namespace Rule

/-- Whether the rule links a member to a role. -/
def isGrouping (rule : Rule) : Bool := isGroupingType rule.type

/-- The rule on one line: its type and its fields, parted by commas and blanks. -/
def text (rule : Rule) : String :=
  rule.fields.foldl (fun line field => line ++ ", " ++ field) rule.type

end Rule

/-- Whether a field breaks a line, so that no row of text can hold it. -/
def breaksLine (field : String) : Bool :=
  field.toList.any fun c => c == '\r' || c == '\n'

/-- A complete policy, policy rules and grouping rules each in order. -/
structure RuleSet where
  policies : List Rule
  groupings : List Rule
deriving DecidableEq, Repr, Inhabited

namespace RuleSet

/-- The rule set without rules. -/
def empty : RuleSet := ⟨[], []⟩

/-- Adds a rule at the end of the list that its type belongs to. -/
def push (set : RuleSet) (rule : Rule) : RuleSet :=
  if rule.isGrouping then { set with groupings := set.groupings ++ [rule] }
  else { set with policies := set.policies ++ [rule] }

/-- The rule set of some rules, each list in their order. -/
def ofList (rules : List Rule) : RuleSet where
  policies := rules.filter fun rule => !rule.isGrouping
  groupings := rules.filter (·.isGrouping)

/-- All rules, the policy rules before the grouping rules. -/
def toList (set : RuleSet) : List Rule := set.policies ++ set.groupings

def size (set : RuleSet) : Nat := set.policies.length + set.groupings.length

/-- Whether there is no rule. -/
def isEmpty (set : RuleSet) : Bool := set.size == 0

theorem ofList_append_singleton (rules : List Rule) (rule : Rule) :
    ofList (rules ++ [rule]) = (ofList rules).push rule := by
  cases grouping : rule.isGrouping <;> simp [ofList, push, grouping, List.filter_append]

/-- Building a rule set at once or by pushing one rule after another is the same. -/
theorem foldl_push (rules : List Rule) : rules.foldl push empty = ofList rules := by
  have general : ∀ before, rules.foldl push (ofList before) = ofList (before ++ rules) := by
    induction rules with
    | nil => simp
    | cons rule rest ih =>
      intro before
      rw [List.foldl_cons, ← ofList_append_singleton, ih, List.append_assoc]
      rfl
  exact general []

end RuleSet
end AccessControl
