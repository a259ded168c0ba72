import AccessControl.Proofs.Result
import AccessControl.Storage.Table
/-!
Tables whose rows are replaced. Rows that are added get ids above those of all before them, and so they are read
in the order in which they were added. However the rows are cut into batches, the draft has in the end just
these rows; so a transaction that is committed leaves them in place of all others.
-/
namespace AccessControl

namespace PolicyTable
variable {table : PolicyTable}

/-- The rows are those of the entries, taken in ascending order of the ids. -/
theorem exists_rows (table : PolicyTable) : ∃ entries : List TableEntry, entries.Perm table.entries ∧
    entries.Pairwise (fun entry later => entry.id ≤ later.id) ∧ table.rows = entries.map (·.row) := by
  refine ⟨_, List.mergeSort_perm _ _, ?_, rfl⟩
  have sorted : (table.entries.mergeSort fun entry later => entry.id ≤ later.id).Pairwise
      fun entry later => decide (entry.id ≤ later.id) = true := by
    apply List.pairwise_mergeSort
    · intro first second third one two
      simp only [decide_eq_true_eq] at one two ⊢
      exact Nat.le_trans one two
    · intro entry later
      simpa using Nat.le_total entry.id later.id
  exact sorted.imp of_decide_eq_true

/-- Entries that stand in ascending order of their ids are read as they stand. -/
theorem rows_of_pairwise (ascending : table.entries.Pairwise fun entry later => entry.id ≤ later.id) :
    table.rows = table.entries.map (·.row) := by
  unfold rows
  rw [List.mergeSort_of_pairwise (ascending.imp decide_eq_true)]

theorem insert_nil : table.insert [] = table := by simp [insert]

theorem insert_append (first later : List TableRow) :
    table.insert (first ++ later) = (table.insert first).insert later := by
  simp only [insert, List.zipIdx_append, List.map_append, List.append_assoc, List.length_append,
    Nat.add_right_comm, Nat.add_assoc]

/-- Rows that are added to a table without any are read in the order of their addition. -/
theorem rows_clear_insert (table : PolicyTable) (rows : List TableRow) :
    (table.clear.insert rows).rows = rows := by
  have entries : (table.clear.insert rows).entries =
      (rows.zipIdx (table.lastId + 1)).map fun numbered => ⟨numbered.2, numbered.1⟩ := List.nil_append _
  have ids : ((rows.zipIdx (table.lastId + 1)).map (·.2)).Pairwise (· < ·) := by
    rw [List.zipIdx_map_snd]
    exact List.pairwise_lt_range'
  rw [rows_of_pairwise, entries, List.map_map]
  · exact List.zipIdx_map_fst _ rows
  · rw [entries, List.pairwise_map]
    exact (List.pairwise_map.1 ids).imp Nat.le_of_lt

end PolicyTable

namespace Database
variable {fails : TableStep → Bool} {database : Database} {rows : List TableRow}

theorem isSome_of_table {table : PolicyTable} (there : database.table = .ok table) :
    database.table?.isSome = true := by
  unfold Database.table at there
  split at there
  next found =>
    rw [found]
    rfl
  next => cases there

theorem database_of_table_eq_error {error : Error} (missing : database.table = .error error) :
    error = .database := by
  unfold Database.table at missing
  split at missing
  next => cases missing
  next =>
    cases missing
    rfl

theorem flatten_batchesFrom (batch rows : List TableRow) :
    (batchesFrom batch rows).flatten = batch ++ rows := by
  induction rows generalizing batch with
  | nil =>
    unfold batchesFrom
    split
    next none => simp [List.isEmpty_iff.1 none]
    next => simp
  | cons row rest ih =>
    unfold batchesFrom
    split
    next => rw [List.flatten_cons, ih, List.singleton_append]
    next => rw [ih, List.append_assoc, List.singleton_append]

/-- Whether a result is the intended one, or comes of a step of a transaction that fails. -/
def Obeys (fails : TableStep → Bool) {α : Type} (result intended : Except Error α) : Prop :=
  result = intended ∨ result = .error .database ∧ ∃ step ≠ TableStep.query, fails step = true

namespace Obeys

theorem attempt (fails : TableStep → Bool) (step : TableStep) (inside : step ≠ .query) :
    Obeys fails (Database.attempt fails step) (.ok ()) := by
  unfold Database.attempt
  cases failed : fails step with
  | false => exact .inl rfl
  | true => exact .inr ⟨rfl, step, inside, failed⟩

theorem bind {α β : Type} {result : Except Error α} {value : α} {next : α → Except Error β}
    {intended : Except Error β} (first : Obeys fails result (.ok value))
    (rest : Obeys fails (next value) intended) : Obeys fails (result >>= next) intended := by
  rcases first with rfl | ⟨rfl, failed⟩
  · exact rest
  · exact .inr ⟨rfl, failed⟩

/-- The batches are added one after another. -/
theorem insertAll (fails : TableStep → Bool) (number : Nat) (table : PolicyTable)
    (batches : List (List TableRow)) :
    Obeys fails (Database.insertAll fails number ⟨some table⟩ batches)
      (.ok ⟨some (table.insert batches.flatten)⟩) := by
  induction batches generalizing number table with
  | nil =>
    rw [List.flatten_nil, PolicyTable.insert_nil]
    exact .inl rfl
  | cons batch rest ih =>
    rw [List.flatten_cons, PolicyTable.insert_append]
    exact (attempt fails (.insert number) nofun).bind (ih (number + 1) (table.insert batch))

/-- A transaction leaves the given rows in a table that is there. -/
theorem replaceRows (fails : TableStep → Bool) (database : Database) (rows : List TableRow) :
    Obeys fails (Database.replaceRows fails database rows)
      (database.table.map fun table => ⟨some (table.clear.insert rows)⟩) := by
  refine (attempt fails .begin nofun).bind ((attempt fails .clear nofun).bind ?_)
  unfold Database.clear
  cases database.table with
  | error error => exact .inl rfl
  | ok table =>
    have inserted := insertAll fails 1 table.clear (batchesFrom [] rows)
    rw [flatten_batchesFrom] at inserted
    exact inserted.bind ((attempt fails .commit nofun).bind (.inl rfl))

end Obeys

end Database
end AccessControl
