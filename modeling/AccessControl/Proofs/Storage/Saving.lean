import AccessControl.Proofs.PolicyText.RoundTrip
import AccessControl.Proofs.Storage.Platforms
import AccessControl.Proofs.Storage.Rows
/-!
Policies that are saved and loaded. A rule set that a storage can hold is saved whenever the storage is
available, and loading gives it back. A text holds rules that can be read back from their rows, and a
table holds rules that are no wider than the table.
-/
namespace AccessControl

namespace Storage
variable {storage : Storage} {files : FileTree} {rules : RuleSet}

/-- Whether a policy can be put there: the path leads to a file, or to where one can be made, or it leads
to a database with its table. -/
def Available (files : FileTree) : Storage → Prop
  | text path => ∃ place, files.place path = .ok place ∧ files.at? place ≠ some .directory
  | database path => ∃ content, databaseAt files path = .ok content ∧ content.table?.isSome = true

/-- Whether a rule set comes back from there. -/
def Holds (rules : RuleSet) : Storage → Prop
  | text _ => ∀ rule ∈ rules.toList, rule.Rereads ∧ PolicyText.breakingField? rule.fields = none
  | database _ => ∀ rule ∈ rules.toList, rule.fields.length ≤ tableColumns

theorem databaseAt_eq_ok {path : String} {content : Database} :
    databaseAt files path = .ok content ↔ files.content path = .ok (.database content) := by
  unfold databaseAt
  split
  next found =>
    rw [found]
    simp
  next other =>
    constructor
    · intro done
      cases done
    · intro found
      exact absurd found (other content)

/-- Rules are not loaded where there is no table. -/
theorem database_of_load_eq_error {path : String} {error : Error}
    (failed : (database path).load files = .error error) :
    error = .database ∧ ∀ table, databaseAt files path ≠ .ok ⟨some table⟩ := by
  rw [load_database] at failed
  constructor
  · unfold databaseAt at failed
    split at failed
    next =>
      exact Database.database_of_table_eq_error (Result.map_eq_error.1 (Result.map_eq_error.1 failed))
    next =>
      cases failed
      rfl
  · intro table opened
    rw [opened] at failed
    cases failed

/-- Where a policy can be loaded from, one can be saved. -/
theorem available_of_load (loaded : storage.load files = .ok rules) : storage.Available files := by
  cases storage with
  | text path =>
    rw [load_text] at loaded
    obtain ⟨text, read, -⟩ := Result.bind_eq_ok.1 loaded
    obtain ⟨place, leads, found⟩ := FileTree.content_eq_ok.1
      (FileTree.read_eq_ok.1 (Result.mapError_eq_ok.1 read))
    exact ⟨place, leads, by simp [found]⟩
  | database path =>
    rw [load_database] at loaded
    obtain ⟨content, opened, read⟩ := Result.bind_eq_ok.1 loaded
    obtain ⟨rows, listed, -⟩ := Result.map_eq_ok.1 read
    obtain ⟨table, there, -⟩ := Result.map_eq_ok.1 listed
    exact ⟨content, opened, Database.isSome_of_table there⟩

/-- Rules that are no wider than a table are saved as its rows. -/
theorem exists_save_rows {path : String} {before : PolicyTable}
    (opened : databaseAt files path = .ok ⟨some before⟩)
    (fits : ∀ rule ∈ rules.toList, rule.fields.length ≤ tableColumns) :
    ∃ saved, (database path).save files rules = .ok saved ∧
      databaseAt saved path = .ok ⟨some (before.clear.insert (rules.toList.map TableRow.filled))⟩ := by
  obtain ⟨place, leads, found⟩ := FileTree.content_eq_ok.1 (databaseAt_eq_ok.1 opened)
  obtain ⟨saved, put⟩ := FileTree.exists_write leads (by simp [found])
    (.database ⟨some (before.clear.insert (rules.toList.map TableRow.filled))⟩)
  refine ⟨saved, ?_, databaseAt_eq_ok.2 (FileTree.content_of_write put)⟩
  rw [save_database_eq]
  exact Result.bind_eq_ok.2 ⟨_, TableRow.ofRules_eq_ok fits 1, Result.bind_eq_ok.2 ⟨_, opened,
    Result.bind_eq_ok.2 ⟨_, rfl, Result.mapError_eq_ok.2 put⟩⟩⟩

/-- Of a table there is loaded what is read from its rows. -/
theorem load_rows {path : String} {table : PolicyTable} (opened : databaseAt files path = .ok ⟨some table⟩) :
    (database path).load files = .ok (RuleSet.ofList (table.rows.map TableRow.rule)) := by
  rw [load_database, opened]
  rfl

/-- What is saved is loaded again. -/
theorem exists_save (available : storage.Available files) (holds : storage.Holds rules)
    (sorted : RuleSet.ofList rules.toList = rules) :
    ∃ saved, storage.save files rules = .ok saved ∧ storage.load saved = .ok rules := by
  cases storage with
  | text path =>
    obtain ⟨place, leads, free⟩ := available
    have unbroken := fun rule stored => (holds rule stored).2
    obtain ⟨saved, put⟩ := FileTree.exists_write leads free (.text (String.ofList
      (rules.toList.flatMap fun rule => Row.write rule ++ ['\n'])))
    refine ⟨saved, ?_, ?_⟩
    · rw [save_text_eq]
      exact Result.bind_eq_ok.2 ⟨_, PolicyText.write_eq_ok unbroken, Result.mapError_eq_ok.2 put⟩
    · rw [load_text]
      have read := FileTree.read_eq_ok.2 (FileTree.content_of_write put)
      refine Result.bind_eq_ok.2 ⟨_, Result.mapError_eq_ok.2 read, Result.map_eq_ok.2 ⟨_, ?_, sorted⟩⟩
      rw [String.toList_ofList]
      exact PolicyText.readLines_write (fun rule stored => (holds rule stored).1) unbroken
  | database path =>
    obtain ⟨⟨table?⟩, opened, table⟩ := available
    obtain ⟨before, rfl⟩ := Option.isSome_iff_exists.1 table
    obtain ⟨saved, done, reopened⟩ := exists_save_rows opened holds
    refine ⟨saved, done, ?_⟩
    rw [load_rows reopened, PolicyTable.rows_clear_insert, TableRow.map_rule_filled holds, sorted]

/-- A policy that has been saved as a text is in a file that takes the place of an earlier one, if any. -/
theorem save_text {path : String} {saved : FileTree} (done : (text path).save files rules = .ok saved) :
    ∃ place text, files.place path = .ok place ∧ files.at? place ≠ some .directory ∧
      saved = files.put place (.file (.text text)) := by
  rw [save_text_eq] at done
  obtain ⟨text, -, written⟩ := Result.bind_eq_ok.1 done
  obtain ⟨place, leads, free, same⟩ := FileTree.write_eq_ok.1 (Result.mapError_eq_ok.1 written)
  exact ⟨place, text, leads, free, same⟩

/-- A policy that has been saved in a table is in a database that had a table before. -/
theorem save_database {path : String} {saved : FileTree}
    (done : (database path).save files rules = .ok saved) :
    ∃ place before after, files.place path = .ok place ∧
      files.at? place = some (.file (.database ⟨some before⟩)) ∧
      saved = files.put place (.file (.database ⟨some after⟩)) := by
  rw [save_database_eq] at done
  obtain ⟨rows, -, begun⟩ := Result.bind_eq_ok.1 done
  obtain ⟨⟨table?⟩, opened, rest⟩ := Result.bind_eq_ok.1 begun
  obtain ⟨after, replaced, written⟩ := Result.bind_eq_ok.1 rest
  obtain ⟨before, there, rfl⟩ := Result.map_eq_ok.1 replaced
  obtain ⟨table, rfl⟩ := Option.isSome_iff_exists.1 (Database.isSome_of_table there)
  obtain ⟨place, leads, found⟩ := FileTree.content_eq_ok.1 (databaseAt_eq_ok.1 opened)
  obtain ⟨place', leads', -, put⟩ := FileTree.write_eq_ok.1 (Result.mapError_eq_ok.1 written)
  cases leads.symm.trans leads'
  exact ⟨place, table, _, leads, found, put⟩

/-- Saving changes nothing but the file of the storage. -/
theorem put_of_save {saved : FileTree} (done : storage.save files rules = .ok saved) :
    ∃ place content, files.place storage.path = .ok place ∧ files.at? place ≠ some .directory ∧
      saved = files.put place (.file content) := by
  cases storage with
  | text path =>
    obtain ⟨place, text, leads, free, same⟩ := save_text done
    exact ⟨place, _, leads, free, same⟩
  | database path =>
    obtain ⟨place, before, after, leads, there, same⟩ := save_database done
    exact ⟨place, _, leads, by simp [there], same⟩

/-- Where a policy has been saved, one can be saved. -/
theorem available_of_save {saved : FileTree} (done : storage.save files rules = .ok saved) :
    storage.Available files := by
  cases storage with
  | text path =>
    obtain ⟨place, -, leads, free, -⟩ := put_of_save done
    exact ⟨place, leads, free⟩
  | database path =>
    obtain ⟨place, before, after, leads, there, -⟩ := save_database done
    exact ⟨_, databaseAt_eq_ok.2 (FileTree.content_eq_ok.2 ⟨place, leads, there⟩), rfl⟩

/-- What a table has taken is no wider than it. -/
theorem narrow_of_save {path : String} {saved : FileTree}
    (done : (database path).save files rules = .ok saved) :
    ∀ rule ∈ rules.toList, rule.fields.length ≤ tableColumns := by
  rw [save_database_eq] at done
  obtain ⟨rows, written, -⟩ := Result.bind_eq_ok.1 done
  exact TableRow.narrow_of_ofRules written

/-- Rules that a text can hold are not saved where the file cannot be written. -/
theorem unwritable_of_save_eq_error {path : String} {error : Error}
    (unbroken : ∀ rule ∈ rules.toList, PolicyText.breakingField? rule.fields = none)
    (failed : (text path).save files rules = .error error) :
    ∃ fault, error = .storage path fault ∧ ∀ content, files.write path content = .error fault := by
  rw [save_text_eq, PolicyText.write_eq_ok unbroken] at failed
  obtain ⟨fault, stopped, rfl⟩ := Result.mapError_eq_error.1 failed
  exact ⟨fault, rfl, FileTree.write_eq_error stopped⟩

/-- Rules are not saved in a table if one is wider than the table, or if there is no table. -/
theorem tooWide_or_database_of_save_eq_error {path : String} {error : Error}
    (failed : (database path).save files rules = .error error) :
    (∃ index rule, rules.toList[index]? = some rule ∧ tableColumns < rule.fields.length ∧
      error = .malformedRow (index + 1) (.tooWide rule.type rule.fields.length tableColumns)) ∨
    error = .database ∧ ∀ table, databaseAt files path ≠ .ok ⟨some table⟩ := by
  rw [save_database_eq] at failed
  rcases Result.bind_eq_error.1 failed with refused | ⟨rows, -, rest⟩
  · obtain ⟨index, rule, placed, wide, told⟩ := TableRow.tooWide_of_ofRules refused
    exact .inl ⟨index, rule, placed, wide, Nat.add_comm 1 index ▸ told⟩
  · right
    constructor
    · rcases Result.bind_eq_error.1 rest with closed | ⟨content, -, rest⟩
      · unfold databaseAt at closed
        split at closed
        · cases closed
        · cases closed
          rfl
      · rcases Result.bind_eq_error.1 rest with missing | ⟨saved, -, unwritten⟩
        · exact Database.database_of_table_eq_error (Result.map_eq_error.1 missing)
        · obtain ⟨-, -, rfl⟩ := Result.mapError_eq_error.1 unwritten
          rfl
    · intro stored opened
      obtain ⟨place, leads, found⟩ := FileTree.content_eq_ok.1 (databaseAt_eq_ok.1 opened)
      obtain ⟨after, put⟩ := FileTree.exists_write leads (by simp [found])
        (.database ⟨some (stored.clear.insert rows)⟩)
      rw [opened] at rest
      change (files.write path (.database ⟨some (stored.clear.insert rows)⟩)).mapError _ = _ at rest
      rw [put] at rest
      cases rest

end Storage
end AccessControl
