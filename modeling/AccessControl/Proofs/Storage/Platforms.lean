import AccessControl.Proofs.Storage.Replacing
import AccessControl.Proofs.Storage.Transactions
import AccessControl.Storage
/-!
Storages on platforms that may fail. Whatever steps a platform fails, a storage is loaded and saved as on
the reliable platform, or the action fails and all files are left as they were.
-/
namespace AccessControl

namespace Platform

/-- Whether a platform gives a reason why a storage is not loaded. -/
def FailsLoad (platform : Platform) : Storage → Error → Prop
  | .text path, error => ∃ fault, platform.disk.fault? .read = some fault ∧ error = .storage path fault
  | .database _, error => error = .database ∧ platform.fails .query = true

/-- Whether a platform gives a reason why a storage is not saved. -/
def FailsSave (platform : Platform) : Storage → Error → Prop
  | .text path, error => ∃ fault, platform.disk.Faults fault ∧ error = .storage path fault
  | .database _, error => error = .database ∧ ∃ step ≠ TableStep.query, platform.fails step = true

variable {storage : Storage} {error : Error}

theorem not_failsLoad_reliable : ¬reliable.FailsLoad storage error := by
  cases storage with
  | text path => nofun
  | database path => nofun

theorem not_failsSave_reliable : ¬reliable.FailsSave storage error := by
  cases storage with
  | text path =>
    rintro ⟨fault, given, -⟩
    exact Disk.not_faults_reliable given
  | database path =>
    rintro ⟨-, step, -, failed⟩
    cases failed

end Platform

namespace Storage
variable {storage : Storage} {files : FileTree} {rules : RuleSet}

/-- What a transaction does is taken over with the failures of its steps. -/
theorem follows_of_obeys {platform : Platform} {α : Type} {result intended : Except Error α}
    (obeys : Database.Obeys platform.fails result intended) (path : String) :
    Action.Follows (platform.FailsSave (.database path)) (liftM result) files
      (intended.map (·, files)) := by
  rcases obeys with rfl | ⟨rfl, failed⟩
  · exact .lift result
  · exact .throw ⟨rfl, failed⟩

theorem query_follows (platform : Platform) (path : String) (files : FileTree) :
    Action.Follows (platform.FailsLoad (.database path))
      (liftM (Database.attempt platform.fails .query)) files
      ((Except.ok ()).map (·, files)) := by
  unfold Database.attempt
  cases failed : platform.fails .query with
  | false => exact .lift (.ok ())
  | true => exact .throw ⟨rfl, failed⟩

theorem read_follows (platform : Platform) (path : String) (files : FileTree) :
    Action.Follows (platform.FailsLoad (.text path)) ((platform.disk.read path).adapt (.storage path)) files
      (((files.read path).mapError (.storage path)).map (·, files)) := by
  rw [Result.map_mapError]
  exact (platform.disk.read_follows files path).adapt fun fault given => ⟨fault, given, rfl⟩

theorem replace_follows (platform : Platform) (path text : String) (files : FileTree) :
    Action.Follows (platform.FailsSave (.text path))
      ((platform.disk.replace path text).adapt (.storage path)) files
      (((files.write path (.text text)).mapError (.storage path)).map ((), ·)) := by
  rw [Result.map_mapError]
  exact (platform.disk.replace_follows files path text).adapt fun fault given => ⟨fault, given, rfl⟩

/-- The text is read and taken apart. -/
theorem loadOn_text (platform : Platform) (path : String) (files : FileTree) :
    Action.Follows (platform.FailsLoad (.text path)) ((text path).loadOn platform) files
      (((files.read path).mapError (.storage path) >>= PolicyText.read).map (·, files)) := by
  rw [Result.map_bind]
  exact (read_follows platform path files).bind fun _ _ => .lift _

/-- The database is opened and its rows are read. -/
theorem loadOn_database (platform : Platform) (path : String) (files : FileTree) :
    Action.Follows (platform.FailsLoad (.database path)) ((database path).loadOn platform) files
      ((databaseAt files path >>= Database.load).map (·, files)) := by
  rw [Result.map_bind]
  refine .get_bind ((Action.Follows.lift _).bind fun database _ => ?_)
  exact (query_follows platform path files).bind fun _ _ => .lift _

/-- The text is written at once. -/
theorem saveOn_text (platform : Platform) (path : String) (files : FileTree) (rules : RuleSet) :
    Action.Follows (platform.FailsSave (.text path)) ((text path).saveOn platform rules) files
      ((PolicyText.write rules >>= fun text =>
        (files.write path (.text text)).mapError (.storage path)).map ((), ·)) := by
  rw [Result.map_bind]
  exact (Action.Follows.lift _).bind fun text _ => replace_follows platform path text files

/-- The rows are replaced at once. -/
theorem saveOn_database (platform : Platform) (path : String) (files : FileTree) (rules : RuleSet) :
    Action.Follows (platform.FailsSave (.database path)) ((database path).saveOn platform rules) files
      ((TableRow.ofRules 1 rules.toList >>= fun rows => databaseAt files path >>= fun database =>
        database.table.map (fun table => ⟨some (table.clear.insert rows)⟩) >>= fun saved =>
          (files.write path (.database saved)).mapError fun _ => .database).map ((), ·)) := by
  simp only [Result.map_bind]
  refine (Action.Follows.lift _).bind fun rows _ => .get_bind ?_
  refine (Action.Follows.lift _).bind fun database _ => ?_
  exact (follows_of_obeys (.replaceRows _ database rows) path).bind fun saved _ => .lift_bind fun _ => rfl

theorem load_text (path : String) (files : FileTree) : (text path).load files =
    ((files.read path).mapError (.storage path) >>= PolicyText.read) :=
  (loadOn_text .reliable path files).value_eq fun _ => Platform.not_failsLoad_reliable

theorem load_database (path : String) (files : FileTree) :
    (database path).load files = (databaseAt files path >>= Database.load) :=
  (loadOn_database .reliable path files).value_eq fun _ => Platform.not_failsLoad_reliable

theorem save_text_eq (path : String) (files : FileTree) (rules : RuleSet) :
    (text path).save files rules = (PolicyText.write rules >>= fun text =>
      (files.write path (.text text)).mapError (.storage path)) :=
  (saveOn_text .reliable path files rules).after_eq fun _ => Platform.not_failsSave_reliable

theorem save_database_eq (path : String) (files : FileTree) (rules : RuleSet) :
    (database path).save files rules = (TableRow.ofRules 1 rules.toList >>= fun rows =>
      databaseAt files path >>= fun database =>
        database.table.map (fun table => ⟨some (table.clear.insert rows)⟩) >>= fun saved =>
          (files.write path (.database saved)).mapError fun _ => .database) :=
  (saveOn_database .reliable path files rules).after_eq fun _ => Platform.not_failsSave_reliable

/-- On every platform the rules are loaded that the reliable one would give, or none; the files stay. -/
theorem loadOn_follows (platform : Platform) (storage : Storage) (files : FileTree) :
    Action.Follows (platform.FailsLoad storage) (storage.loadOn platform) files
      ((storage.load files).map (·, files)) := by
  cases storage with
  | text path =>
    rw [load_text]
    exact loadOn_text platform path files
  | database path =>
    rw [load_database]
    exact loadOn_database platform path files

/-- On every platform the files become what the reliable one would make of them, or stay as they are. -/
theorem saveOn_follows (platform : Platform) (storage : Storage) (files : FileTree) (rules : RuleSet) :
    Action.Follows (platform.FailsSave storage) (storage.saveOn platform rules) files
      ((storage.save files rules).map ((), ·)) := by
  cases storage with
  | text path =>
    rw [save_text_eq]
    exact saveOn_text platform path files rules
  | database path =>
    rw [save_database_eq]
    exact saveOn_database platform path files rules

end Storage
end AccessControl
