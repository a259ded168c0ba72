import AccessControl.Proofs.Result
import AccessControl.Storage.Table
import Mathlib.Data.List.OfFn
import Mathlib.Data.List.ReduceOption
/-!
Rows of the policy table. A rule that is no wider than the table is read from its row as it was. A row that
was not written for a rule may have a value behind an empty column; the rule that is read from it ends
before that column, so that it has all values of the row just when there is no such gap.
-/
namespace AccessControl

/-- Whether the rule has more fields than the table has columns. -/
def Rule.overflows (rule : Rule) : Bool := decide (tableColumns < rule.fields.length)

theorem Rule.overflows_eq_false {rule : Rule} :
    rule.overflows = false ↔ rule.fields.length ≤ tableColumns := by
  rw [overflows, decide_eq_false_iff_not, Nat.not_lt]

namespace TableRow

/-- The fields of a rule fill the first columns, and the first empty column ends them. -/
theorem leading_ofFn {columns : Nat} {fields : List String} (fits : fields.length ≤ columns) :
    leading (List.ofFn fun column : Fin columns => fields[column.val]?) = fields := by
  induction columns generalizing fields with
  | zero =>
    rw [List.length_eq_zero_iff.1 (Nat.le_zero.1 fits)]
    rfl
  | succ columns ih =>
    rw [List.ofFn_succ]
    cases fields with
    | nil => rfl
    | cons field rest =>
      have shorter : rest.length ≤ columns := Nat.le_of_succ_le_succ fits
      change field :: leading (List.ofFn fun column : Fin columns => rest[column.val]?) = field :: rest
      rw [ih shorter]

/-- The row of a rule, with no more of its fields than there are columns. -/
def filled (rule : Rule) : TableRow := ⟨rule.type, Vector.ofFn fun column => rule.fields[column]?⟩

theorem rule_filled {rule : Rule} (fits : rule.fields.length ≤ tableColumns) :
    (filled rule).rule = rule := by
  have same : leading (Vector.ofFn fun column : Fin tableColumns => rule.fields[column.val]?).toList =
      rule.fields := by
    rw [Vector.toList_ofFn]
    exact leading_ofFn fits
  exact congrArg (Rule.mk rule.type) same

theorem map_rule_filled {rules : List Rule} (fits : ∀ rule ∈ rules, rule.fields.length ≤ tableColumns) :
    (rules.map filled).map TableRow.rule = rules := by
  rw [List.map_map]
  exact (List.map_congr_left fun rule inside => rule_filled (fits rule inside)).trans (List.map_id rules)

theorem ofRule_eq (rule : Rule) : ofRule rule =
    if rule.overflows = true then .error (.tooWide rule.type rule.fields.length tableColumns)
    else .ok (filled rule) := by
  unfold ofRule Rule.overflows
  simp only [decide_eq_true_eq]
  rfl

/-- Rules that are no wider than the table have rows. -/
theorem ofRules_eq_ok {rules : List Rule} (fits : ∀ rule ∈ rules, rule.fields.length ≤ tableColumns)
    (number : Nat) : ofRules number rules = .ok (rules.map filled) := by
  induction rules generalizing number with
  | nil => rfl
  | cons rule rest ih =>
    rw [List.forall_mem_cons] at fits
    have narrow : ¬rule.overflows = true := by simp [Rule.overflows_eq_false.2 fits.1]
    rw [ofRules, ofRule_eq, if_neg narrow]
    simp only [ih fits.2]
    rfl

/-- The first rule that is wider than the table is told by its number. -/
theorem ofRules_eq_error {rules : List Rule} {index : Nat} (found : rules.findIdx? Rule.overflows = some index)
    (number : Nat) : ∃ rule, rules[index]? = some rule ∧ tableColumns < rule.fields.length ∧
      ofRules number rules =
        .error (.malformedRow (number + index) (.tooWide rule.type rule.fields.length tableColumns)) := by
  induction rules generalizing index number with
  | nil => cases found
  | cons rule rest ih =>
    rw [List.findIdx?_cons] at found
    by_cases wide : rule.overflows = true
    · rw [if_pos wide] at found
      cases found
      refine ⟨rule, rfl, of_decide_eq_true wide, ?_⟩
      rw [ofRules, ofRule_eq, if_pos wide]
      rfl
    · rw [if_neg wide] at found
      obtain ⟨later, further, rfl⟩ := Option.map_eq_some_iff.1 found
      obtain ⟨other, placed, long, failed⟩ := ih further (number + 1)
      refine ⟨other, placed, long, ?_⟩
      rw [ofRules, ofRule_eq, if_neg wide]
      simp only [failed]
      rw [Nat.add_assoc, Nat.add_comm 1]
      rfl

/-- Either all rules have rows or there is a first rule that has none. -/
theorem ofRules_cases (rules : List Rule) (number : Nat) :
    ((∀ rule ∈ rules, rule.fields.length ≤ tableColumns) ∧ ofRules number rules = .ok (rules.map filled)) ∨
      ∃ index rule, rules[index]? = some rule ∧ tableColumns < rule.fields.length ∧
        ofRules number rules =
          .error (.malformedRow (number + index) (.tooWide rule.type rule.fields.length tableColumns)) := by
  cases found : rules.findIdx? Rule.overflows with
  | none =>
    have fits : ∀ rule ∈ rules, rule.fields.length ≤ tableColumns :=
      fun rule inside => Rule.overflows_eq_false.1 (List.findIdx?_eq_none_iff.1 found rule inside)
    exact .inl ⟨fits, ofRules_eq_ok fits number⟩
  | some index =>
    obtain ⟨rule, placed, wide, failed⟩ := ofRules_eq_error found number
    exact .inr ⟨index, rule, placed, wide, failed⟩

/-- Rules that have rows are no wider than the table. -/
theorem narrow_of_ofRules {rules : List Rule} {number : Nat} {rows : List TableRow}
    (written : ofRules number rules = .ok rows) :
    ∀ rule ∈ rules, rule.fields.length ≤ tableColumns := by
  rcases ofRules_cases rules number with ⟨fits, -⟩ | ⟨_, _, -, -, failed⟩
  · exact fits
  · rw [failed] at written
    cases written

theorem tooWide_of_ofRules {rules : List Rule} {number : Nat} {error : Error}
    (failed : ofRules number rules = .error error) :
    ∃ index rule, rules[index]? = some rule ∧ tableColumns < rule.fields.length ∧
      error = .malformedRow (number + index) (.tooWide rule.type rule.fields.length tableColumns) := by
  rcases ofRules_cases rules number with ⟨-, written⟩ | ⟨index, rule, placed, wide, failed'⟩
  · rw [written] at failed
    cases failed
  · rw [failed'] at failed
    cases failed
    exact ⟨index, rule, placed, wide, rfl⟩

/-- The values of a row in the order of its columns, the empty columns left out. -/
def values (row : TableRow) : List String := row.columns.toList.reduceOption

/-- Whether there are only empty columns behind an empty one. -/
def Unbroken (columns : List (Option String)) : Prop :=
  columns.Pairwise fun first later => first = none → later = none

/-- Whether no value of a row stands behind an empty column. -/
def Gapless (row : TableRow) : Prop := Unbroken row.columns.toList

instance (row : TableRow) : Decidable row.Gapless :=
  inferInstanceAs (Decidable (row.columns.toList.Pairwise fun first later => first = none → later = none))

theorem unbroken_none_cons {rest : List (Option String)} :
    Unbroken (none :: rest) ↔ ∀ column ∈ rest, column = none := by
  unfold Unbroken
  rw [List.pairwise_cons]
  constructor
  · intro unbroken column inside
    exact unbroken.1 column inside rfl
  · intro empty
    refine ⟨fun column inside _ => empty column inside, List.pairwise_of_forall_mem_list ?_⟩
    intro _ _ later inside _
    exact empty later inside

theorem unbroken_some_cons {value : String} {rest : List (Option String)} :
    Unbroken (some value :: rest) ↔ Unbroken rest := by
  unfold Unbroken
  rw [List.pairwise_cons]
  exact and_iff_right fun _ _ none => nomatch none

theorem leading_initial (columns : List (Option String)) : leading columns <+: columns.reduceOption := by
  induction columns with
  | nil => exact List.prefix_rfl
  | cons column rest ih =>
    cases column with
    | none => exact List.nil_prefix
    | some value => exact List.cons_prefix_cons.2 ⟨rfl, ih⟩

/-- All values lead just when there is no gap between them. -/
theorem leading_eq_iff {columns : List (Option String)} :
    leading columns = columns.reduceOption ↔ Unbroken columns := by
  induction columns with
  | nil => exact iff_of_true rfl .nil
  | cons column rest ih =>
    cases column with
    | none =>
      rw [unbroken_none_cons, List.reduceOption_cons_of_none, List.reduceOption, leading, eq_comm,
        List.filterMap_eq_nil_iff]
      · rfl
      · exact nofun
    | some value =>
      rw [unbroken_some_cons, ← ih, List.reduceOption_cons_of_some, leading, List.cons_inj_right]

/-- The values that lead fill the columns as before just when there is no gap between the values. -/
theorem ofFn_leading_iff {columns : List (Option String)} {count : Nat} (length : columns.length = count) :
    (List.ofFn fun column : Fin count => (leading columns)[column.val]?) = columns ↔
      Unbroken columns := by
  subst length
  induction columns with
  | nil => exact iff_of_true rfl .nil
  | cons column rest ih =>
    rw [List.length_cons, List.ofFn_succ, List.cons_eq_cons]
    cases column with
    | none =>
      have none : leading (none :: rest) = [] := rfl
      rw [unbroken_none_cons, none]
      simp only [List.getElem?_nil, true_and]
      rw [List.ofFn_const, eq_comm, List.eq_replicate_iff]
      exact and_iff_right rfl
    | some value =>
      rw [unbroken_some_cons, ← ih]
      exact and_iff_right rfl

theorem length_fields_le (row : TableRow) : row.rule.fields.length ≤ tableColumns := by
  have bound := (leading_initial row.columns.toList).length_le.trans (List.reduceOption_length_le _)
  rwa [Vector.length_toList] at bound

/-- What is read from a row: a rule of its type whose fields are the values that lead. These are all values
just when there is no gap between them, and just then the row is the one of the rule. -/
theorem rule_of_row (row : TableRow) : row.rule.type = row.type ∧ row.rule.fields <+: row.values ∧
    (row.rule.fields = row.values ↔ row.Gapless) ∧ (filled row.rule = row ↔ row.Gapless) := by
  refine ⟨rfl, leading_initial _, leading_eq_iff, ?_⟩
  have refilled := ofFn_leading_iff row.columns.length_toList
  rw [← Vector.toList_ofFn, Vector.toList_inj] at refilled
  rw [Gapless, ← refilled]
  obtain ⟨type, columns⟩ := row
  rw [filled, TableRow.mk.injEq]
  exact and_iff_right rfl

/-- The row of a rule has no gap. -/
theorem gapless_filled {rule : Rule} (fits : rule.fields.length ≤ tableColumns) : (filled rule).Gapless :=
  (rule_of_row _).2.2.2.1 (congrArg filled (rule_filled fits))

end TableRow
end AccessControl
