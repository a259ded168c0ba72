import AccessControl.Proofs.Enforcer.Loading
import AccessControl.Proofs.Enforcer.Reloading
/-!
The rows of a table that an enforcer loads and saves. A rule is read from every row, with the values in front
of the first empty column. A row without a gap is there again after the rules have been saved; of another
row the values behind the gap are gone, and neither loading nor saving has failed.
-/
namespace AccessControl

namespace Storage

/-- The rows of a table are loaded without an error, whatever stands in their columns. -/
theorem load_cases (files : FileTree) (path : String) :
    (database path).load files = .error .database ∨ ∃ table, databaseAt files path = .ok ⟨some table⟩ ∧
      (database path).load files = .ok (RuleSet.ofList (table.rows.map TableRow.rule)) := by
  cases loaded : (database path).load files with
  | error error =>
    obtain ⟨rfl, -⟩ := database_of_load_eq_error loaded
    exact .inl rfl
  | ok rules =>
    obtain ⟨⟨table?⟩, opened, there⟩ := available_of_load loaded
    obtain ⟨table, rfl⟩ := Option.isSome_iff_exists.1 there
    exact .inr ⟨table, opened, loaded ▸ load_rows opened⟩

end Storage

namespace Enforcer
variable [Regex.Engine] {enforcer after : Enforcer}

/-- An enforcer that has taken over some rules has no others. -/
theorem TakesOver.mem_rules {rules : RuleSet} (taken : enforcer.TakesOver rules after) {rule : Rule} :
    rule ∈ after.rules.toList ↔ rule ∈ rules.toList := by
  have listed : after.state.store.rules rule.type = (Rule.ofType rule.type rules.toList).eraseDups :=
    taken.listed rule.type
  rw [Enforcer.rules, Store.mem_ruleSet, listed, List.mem_eraseDups, Rule.mem_ofType]

section Loaded
variable {path : String} {files : FileTree} (reachable : enforcer.Reachable)
  (kept : enforcer.storage? = some (.database path)) {loaded : Enforcer}
  (done : enforcer.loadPolicy files = .ok loaded)
include reachable kept done

/-- The rules of an enforcer that has loaded a table are those of its rows. -/
theorem exists_rows_of_loadPolicy : ∃ table, Storage.databaseAt files path = .ok ⟨some table⟩ ∧
    loaded.storage? = some (.database path) ∧
    ∀ rule, rule ∈ loaded.rules.toList ↔ ∃ row ∈ table.rows, row.rule = rule := by
  obtain ⟨storage, rules, kept', stored, replaced⟩ := loadPolicy_eq_ok.1 done
  rw [kept] at kept'
  cases kept'
  have taken := takesOver_of_replaceRules reachable replaced
  rcases Storage.load_cases files path with failed | ⟨table, opened, given⟩
  · rw [failed] at stored
    cases stored
  · rw [stored] at given
    cases given
    refine ⟨table, opened, taken.storage.trans kept, fun rule => ?_⟩
    rw [taken.mem_rules, (RuleSet.toList_ofList_perm _).mem_iff, List.mem_map]

/-- What an enforcer has loaded from a table is saved there again: a row for each rule that was read. -/
theorem exists_savePolicy_of_loadPolicy : ∃ before saved after,
    Storage.databaseAt files path = .ok ⟨some before⟩ ∧ loaded.savePolicy files = .ok saved ∧
      Storage.databaseAt saved path = .ok ⟨some after⟩ ∧
      ∀ row, row ∈ after.rows ↔ ∃ old ∈ before.rows, TableRow.filled old.rule = row := by
  obtain ⟨before, opened, storage, known⟩ := exists_rows_of_loadPolicy reachable kept done
  have fits : ∀ rule ∈ loaded.rules.toList, rule.fields.length ≤ tableColumns := by
    intro rule inside
    obtain ⟨row, -, rfl⟩ := (known rule).1 inside
    exact row.length_fields_le
  obtain ⟨saved, written, reopened⟩ := Storage.exists_save_rows opened fits
  refine ⟨before, saved, _, opened, (savePolicy_eq storage files).trans written, reopened, fun row => ?_⟩
  simp only [PolicyTable.rows_clear_insert, List.mem_map, known]
  constructor
  · rintro ⟨_, ⟨old, inside, rfl⟩, rfl⟩
    exact ⟨old, inside, rfl⟩
  · rintro ⟨old, inside, rfl⟩
    exact ⟨old.rule, ⟨old, inside, rfl⟩, rfl⟩

end Loaded

/-- In the order of the ids there is read from each row of a table a rule of its type with the values up to the
first empty column, which are all its values just when there is no gap. And if an enforcer can load these
rules, it can save them, and a row is still there just when it has no gap. -/
theorem stays_iff_gapless (files : FileTree) (path : String) :
    ((Storage.database path).load files = .error .database ∨
      ∃ table, ∃ entries : List TableEntry, Storage.databaseAt files path = .ok ⟨some table⟩ ∧
        entries.Perm table.entries ∧ entries.Pairwise (fun entry later => entry.id ≤ later.id) ∧
        (Storage.database path).load files = .ok (RuleSet.ofList (entries.map (·.row.rule))) ∧
        ∀ entry ∈ entries, entry.row.rule.type = entry.row.type ∧
          entry.row.rule.fields <+: entry.row.values ∧
          (entry.row.rule.fields = entry.row.values ↔ entry.row.Gapless)) ∧
    ∀ enforcer : Enforcer, enforcer.Reachable → enforcer.storage? = some (.database path) →
      ∀ loaded, enforcer.loadPolicy files = .ok loaded → ∃ before saved after,
        Storage.databaseAt files path = .ok ⟨some before⟩ ∧ loaded.savePolicy files = .ok saved ∧
        Storage.databaseAt saved path = .ok ⟨some after⟩ ∧
        (∀ row, row ∈ after.rows ↔ ∃ old ∈ before.rows, TableRow.filled old.rule = row) ∧
        ∀ row ∈ before.rows, row ∈ after.rows ↔ row.Gapless := by
  constructor
  · refine (Storage.load_cases files path).imp_right ?_
    rintro ⟨table, opened, loaded⟩
    obtain ⟨entries, same, ascending, rows⟩ := table.exists_rows
    rw [rows, List.map_map] at loaded
    refine ⟨table, entries, opened, same, ascending, loaded, fun entry _ => ?_⟩
    obtain ⟨type, initial, whole, -⟩ := entry.row.rule_of_row
    exact ⟨type, initial, whole⟩
  · intro enforcer reachable kept loaded done
    obtain ⟨before, saved, after, opened, written, reopened, rows⟩ :=
      exists_savePolicy_of_loadPolicy reachable kept done
    refine ⟨before, saved, after, opened, written, reopened, rows, fun row inside => ?_⟩
    rw [rows]
    constructor
    · rintro ⟨old, -, rfl⟩
      exact TableRow.gapless_filled old.length_fields_le
    · intro gapless
      exact ⟨row, inside, row.rule_of_row.2.2.2.2 gapless⟩

end Enforcer

namespace Tenants

/-- A policy row with a value behind an empty column. -/
def gapped : TableRow := ⟨"p", #v[some "admin", some "one", some "allow", none, some "night", none]⟩

/-- The row of a link. -/
def link : TableRow := ⟨"g", #v[some "alice", some "admin", some "one", none, none, none]⟩

/-- A table with a row that has a gap, the later one of its two. -/
def gappedTable : PolicyTable := ⟨[⟨5, gapped⟩, ⟨2, link⟩], 5⟩

def gappedFiles : FileTree where
  entries := [(["rules"], .file (.database ⟨some gappedTable⟩))]

theorem rows_gappedTable : gappedTable.rows = [link, gapped] := by cbv

theorem databaseAt_gappedFiles : Storage.databaseAt gappedFiles "rules" = .ok ⟨some gappedTable⟩ := by
  decide +kernel

end Tenants

/-- Of two rows that are loaded and saved again, the one with a gap is gone. -/
theorem Enforcer.stays_iff_gapless_of_tenants : ∃ loaded saved after,
    ({ Tenants.enforcer with storage? := some (.database "rules") } : Enforcer).loadPolicy
        Tenants.gappedFiles = .ok loaded ∧
      loaded.savePolicy Tenants.gappedFiles = .ok saved ∧
      Storage.databaseAt saved "rules" = .ok ⟨some after⟩ ∧
      Tenants.gapped ∉ after.rows ∧ Tenants.link ∈ after.rows := by
  have reachable : Reachable { Tenants.enforcer with storage? := some (.database "rules") } :=
    .intro Tenants.ofText_text Tenants.ofModel_model (some (.database "rules")) []
  have stored := Storage.load_rows Tenants.databaseAt_gappedFiles
  rw [Tenants.rows_gappedTable] at stored
  obtain ⟨loaded, replaced⟩ : ∃ loaded,
      ({ Tenants.enforcer with storage? := some (.database "rules") } : Enforcer).replaceRules
        (RuleSet.ofList ([Tenants.link, Tenants.gapped].map TableRow.rule)) = .ok loaded := by
    have fits : (({ Tenants.enforcer with storage? := some (.database "rules") } : Enforcer).replaceRules
        (RuleSet.ofList ([Tenants.link, Tenants.gapped].map TableRow.rule))).isOk = true := by decide +kernel
    generalize Enforcer.replaceRules _ _ = outcome at fits ⊢
    cases outcome with
    | ok loaded => exact ⟨loaded, rfl⟩
    | error error => cases fits
  have done := loadPolicy_eq_ok.2 ⟨_, _, rfl, stored, replaced⟩
  obtain ⟨before, saved, after, opened, written, reopened, -, stays⟩ :=
    (stays_iff_gapless Tenants.gappedFiles "rules").2 _ reachable rfl loaded done
  rw [Tenants.databaseAt_gappedFiles] at opened
  cases opened
  rw [Tenants.rows_gappedTable] at stays
  have gone : Tenants.gapped ∉ after.rows := mt (stays _ (by decide)).1 (by decide +kernel)
  exact ⟨loaded, saved, after, done, written, reopened, gone, (stays _ (by decide)).2 (by decide +kernel)⟩

/-- Not all values of a table are loaded. -/
theorem Storage.not_complete_of_gap : ¬∀ files path table rules,
    databaseAt files path = .ok ⟨some table⟩ → (database path).load files = .ok rules →
      ∀ row ∈ table.rows, ∃ rule ∈ rules.toList, rule.type = row.type ∧ row.values.Sublist rule.fields := by
  intro complete
  have loaded := load_rows Tenants.databaseAt_gappedFiles
  rw [Tenants.rows_gappedTable] at loaded
  obtain ⟨rule, inside, -, all⟩ := complete _ _ _ _ Tenants.databaseAt_gappedFiles loaded
    Tenants.gapped (by simp [Tenants.rows_gappedTable])
  have short : ∀ rule ∈ (RuleSet.ofList ([Tenants.link, Tenants.gapped].map TableRow.rule)).toList,
      rule.fields.length = 3 := by decide
  have length := all.length_le
  rw [short rule inside] at length
  exact absurd length (by decide)

end AccessControl
