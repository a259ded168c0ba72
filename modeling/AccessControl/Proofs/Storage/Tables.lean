import AccessControl.Proofs.Storage.Saving
/-!
Tables that are saved and loaded. Whatever its rows have been, a table takes a rule set as a whole and gives
back just this one, or it refuses the rule set for its first rule that is too wide and keeps its rows.
-/
namespace AccessControl

theorem Platform.not_failsSave {platform : Platform} (steady : ∀ step, platform.fails step = false)
    {path : String} {error : Error} : ¬platform.FailsSave (.database path) error := by
  rintro ⟨-, step, -, failed⟩
  rw [steady] at failed
  cases failed

theorem Platform.not_failsLoad {platform : Platform} (steady : ∀ step, platform.fails step = false)
    {path : String} {error : Error} : ¬platform.FailsLoad (.database path) error := by
  rintro ⟨-, failed⟩
  rw [steady] at failed
  cases failed

namespace Storage
variable {files : FileTree} {path : String}

/-- All rules must have their rows before anything is done to a database. -/
theorem run_saveOn_of_refused {rules : RuleSet} {error : Error}
    (refused : TableRow.ofRules 1 rules.toList = .error error) (platform : Platform) :
    ((database path).saveOn platform rules).run files = (.error error, files) := by
  unfold saveOn
  rw [refused]
  rfl

/-- A rule set that has been built rule by rule is taken over into a table with any rows, and loaded from it
as it was, if all its rules have columns enough. Otherwise it is refused for the first rule that is too wide,
and no file is touched. -/
theorem saveOn_exact {before : PolicyTable} (opened : databaseAt files path = .ok ⟨some before⟩)
    (pushed : List Rule) {rules : RuleSet} (built : pushed.foldl RuleSet.push .empty = rules)
    (platform : Platform) :
    ((∀ rule ∈ rules.toList, rule.fields.length ≤ tableColumns) →
      (∀ step, platform.fails step = false) →
      ∃ saved, ((database path).saveOn platform rules).after files = .ok saved ∧
        databaseAt saved path = .ok ⟨some (before.clear.insert (rules.toList.map TableRow.filled))⟩ ∧
        (before.clear.insert (rules.toList.map TableRow.filled)).rows = rules.toList.map TableRow.filled ∧
        ((database path).loadOn platform).value saved = .ok rules) ∧
    ∀ index rule, rules.toList[index]? = some rule → tableColumns < rule.fields.length →
      (∀ other ∈ rules.toList.take index, other.fields.length ≤ tableColumns) →
      ((database path).saveOn platform rules).run files =
        (.error (.malformedRow (index + 1) (.tooWide rule.type rule.fields.length tableColumns)), files) := by
  have sorted : RuleSet.ofList rules.toList = rules := by
    rw [← built, RuleSet.foldl_push]
    exact RuleSet.ofList_toList_ofList pushed
  constructor
  · intro fits steady
    obtain ⟨saved, done, reopened⟩ := exists_save_rows opened fits
    refine ⟨saved, ?_, reopened, before.rows_clear_insert _, ?_⟩
    · rw [(saveOn_follows platform _ files rules).after_eq fun _ => platform.not_failsSave steady, done]
    · rw [(loadOn_follows platform _ saved).value_eq fun _ => platform.not_failsLoad steady,
        load_rows reopened, before.rows_clear_insert, TableRow.map_rule_filled fits, sorted]
  · intro index rule placed wide narrow
    have first : rules.toList.findIdx? Rule.overflows = some index := by
      obtain ⟨short, here⟩ := List.getElem?_eq_some_iff.1 placed
      refine List.findIdx?_eq_some_iff_getElem.2 ⟨short, ?_, ?_⟩
      · rw [here]
        exact decide_eq_true wide
      · intro earlier before'
        have among : rules.toList[earlier] ∈ rules.toList.take index :=
          List.mem_take_iff_getElem.2 ⟨earlier, by omega, rfl⟩
        rw [Rule.overflows_eq_false.2 (narrow _ among)]
        exact Bool.false_ne_true
    obtain ⟨other, placed', -, refused⟩ := TableRow.ofRules_eq_error first 1
    rw [placed] at placed'
    cases placed'
    rw [Nat.add_comm] at refused
    exact run_saveOn_of_refused refused platform

/-- A policy rule without fields, one with an empty field, and a link, in place of an older row; and a rule
that is too wide between two that are not. -/
theorem saveOn_exact_of_edges :
    (∃ saved, ((database "rules").saveOn .reliable
        ⟨[⟨"p", []⟩, ⟨"p", ["", "one"]⟩], [⟨"g", ["alice", "admin"]⟩]⟩).after
          { entries := [(["rules"], .file (.database ⟨some ⟨[⟨4, ⟨"p", .replicate 6 none⟩⟩], 7⟩⟩))] } =
            .ok saved ∧
      ((database "rules").loadOn .reliable).value saved =
        .ok ⟨[⟨"p", []⟩, ⟨"p", ["", "one"]⟩], [⟨"g", ["alice", "admin"]⟩]⟩) ∧
    ((database "rules").saveOn .reliable
        ⟨[⟨"p", ["a"]⟩], [⟨"g", ["1", "2", "3", "4", "5", "6", "7"]⟩, ⟨"g", ["b", "c"]⟩]⟩).run
          { entries := [(["rules"], .file (.database {}))] } =
      (.error (.malformedRow 2 (.tooWide "g" 7 6)),
        { entries := [(["rules"], .file (.database {}))] }) := by
  constructor
  · have opened : databaseAt
        { entries := [(["rules"], .file (.database ⟨some ⟨[⟨4, ⟨"p", .replicate 6 none⟩⟩], 7⟩⟩))] } "rules" =
          .ok ⟨some ⟨[⟨4, ⟨"p", .replicate 6 none⟩⟩], 7⟩⟩ := by decide +kernel
    obtain ⟨saved, done, -, -, loaded⟩ := (saveOn_exact opened
      [⟨"g", ["alice", "admin"]⟩, ⟨"p", []⟩, ⟨"p", ["", "one"]⟩] rfl .reliable).1 (by decide) fun _ => rfl
    exact ⟨saved, done, loaded⟩
  · have opened : databaseAt { entries := [(["rules"], .file (.database {}))] } "rules" = .ok {} := by
      decide +kernel
    exact (saveOn_exact opened
      [⟨"p", ["a"]⟩, ⟨"g", ["1", "2", "3", "4", "5", "6", "7"]⟩, ⟨"g", ["b", "c"]⟩] rfl .reliable).2 1 _ rfl
      (by decide) (by decide)

end Storage
end AccessControl
