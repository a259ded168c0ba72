import AccessControl.Program
import AccessControl.Proofs.Model.Requests
import AccessControl.Proofs.Storage.Saving
/-!
Storages that a run of the program opens. A database that is made, or gets its table, when it is opened
for the first time is there from then on, so that opening it again is without effect; and so it stays
when a policy is saved in it. The model is read as before, since no database is one.
-/
namespace AccessControl

namespace Connection
variable {connection : Connection} {files provided opened : FileTree} {place : Place} {storage : Storage}

theorem place_put {old : Content} (there : files.at? place = some (.file old)) (content : Content) :
    connection.place (files.put place (.file content)) = connection.place files := by
  unfold Connection.place
  cases connection.path? with
  | none => simp only [FileTree.directory_put]
  | some path => simp only [FileTree.plainPlace_put there]

theorem provide_of_file {content : Content} (lasting : connection.path?.isSome = true)
    (leads : connection.place files = .ok place) (there : files.at? place = some (.file content)) :
    connection.provide files = .ok files := by
  have named : connection.path?.isNone = false := by simpa using lasting
  unfold provide
  refine Result.bind_eq_ok.2 ⟨place, leads, ?_⟩
  simp only [named, there, Bool.false_eq_true, if_false]

theorem openIn_of_table {table : PolicyTable} (leads : connection.place files = .ok place)
    (there : files.at? place = some (.file (.database ⟨some table⟩))) :
    connection.openIn files = .ok (.database (FileTree.pathOf place), files) := by
  unfold openIn
  refine Result.bind_eq_ok.2 ⟨place, leads, ?_⟩
  simp only [there, databaseIn?]
  rfl

/-- The file of a database is there already, or it is made where nothing stands. -/
theorem provide_cases (lasting : connection.path?.isSome = true)
    (done : connection.provide files = .ok provided) :
    provided = files ∨
      ∃ place, files.at? place = none ∧ provided = files.put place (.file emptyContent) := by
  have named : connection.path?.isNone = false := by simpa using lasting
  unfold provide at done
  obtain ⟨place, leads, rest⟩ := Result.bind_eq_ok.1 done
  simp only [named, Bool.false_eq_true, if_false] at rest
  split at rest
  · cases rest
    exact .inl rfl
  · cases rest
  next free =>
    split at rest
    · cases rest
      exact .inr ⟨place, free, rfl⟩
    · cases rest

/-- A database is opened as it is, or it gets its table. -/
theorem openIn_cases (done : connection.openIn files = .ok (storage, opened)) :
    ∃ place content database, connection.place files = .ok place ∧
      files.at? place = some (.file content) ∧ databaseIn? content = some database ∧
      storage = .database (FileTree.pathOf place) ∧
      ((database.table?.isSome = true ∧ opened = files) ∨
        opened = files.put place (.file (.database database.migrate))) := by
  unfold openIn at done
  obtain ⟨place, leads, rest⟩ := Result.bind_eq_ok.1 done
  split at rest
  next content there =>
    split at rest
    · cases rest
    next database known =>
      split at rest
      next table =>
        cases rest
        exact ⟨place, content, database, leads, there, known, rfl, .inl ⟨table, rfl⟩⟩
      next =>
        split at rest
        · cases rest
          exact ⟨place, content, database, leads, there, known, rfl, .inr rfl⟩
        · cases rest
  · cases rest

/-- A file that is taken for a database and has a table is a database. -/
theorem eq_of_databaseIn? {content : Content} {database : Database}
    (known : databaseIn? content = some database) (table : database.table?.isSome = true) :
    content = .database database := by
  unfold databaseIn? at known
  split at known
  · cases known
    rfl
  · split at known
    · cases known
      cases table
    · cases known
  · split at known
    · cases known
      cases table
    · cases known

theorem short_of_databaseIn? {text : String} {database : Database}
    (known : databaseIn? (.text text) = some database) : text.utf8ByteSize ≤ 1 := by
  unfold databaseIn? at known
  simp only at known
  split at known
  next short => exact short
  next => cases known

end Connection

namespace Program
variable {settings : Settings} {connection? : Option Connection} {files opened saved : FileTree}
  {storage : Storage} {model : Model} {path : String}

theorem model_eq_ok : Program.model files path = .ok model ↔
    ∃ text, files.content path = .ok (.text text) ∧ Model.ofText text = .ok model := by
  unfold Program.model
  rw [Result.bind_eq_ok]
  constructor
  · rintro ⟨text, read, parsed⟩
    exact ⟨text, FileTree.read_eq_ok.1 (Result.mapError_eq_ok.1 read), Result.mapError_eq_ok.1 parsed⟩
  · rintro ⟨text, found, parsed⟩
    exact ⟨text, Result.mapError_eq_ok.2 (FileTree.read_eq_ok.2 found), Result.mapError_eq_ok.2 parsed⟩

/-- A model is read as before when a file is put where there was no model. -/
theorem model_put (read : Program.model files path = .ok model) {place : Place}
    (free : files.at? place ≠ some .directory)
    (other : ∀ text, files.at? place = some (.file (.text text)) → Model.ofText text ≠ .ok model)
    (content : Content) : Program.model (files.put place (.file content)) path = .ok model := by
  obtain ⟨text, found, parsed⟩ := model_eq_ok.1 read
  refine model_eq_ok.2 ⟨text, FileTree.content_put found free ?_ content, parsed⟩
  intro same
  exact other text same parsed

/-- The storage that the settings name, and the files once it is open. A database is the one of the
connection. -/
def openStorage (settings : Settings) (connection? : Option Connection) (files : FileTree) :
    Except Error (Storage × FileTree) :=
  match settings.backend, connection? with
  | .file, _ => .ok (.text settings.policyPath, files)
  | .database, none => .error .database
  | .database, some connection => do connection.openIn (← connection.provide files)

theorem openStorage_cases (opens : openStorage settings connection? files = .ok (storage, opened)) :
    (settings.backend = .file ∧ storage = .text settings.policyPath ∧ opened = files) ∨
      ∃ connection provided, settings.backend = .database ∧ connection? = some connection ∧
        connection.provide files = .ok provided ∧ connection.openIn provided = .ok (storage, opened) := by
  unfold openStorage at opens
  split at opens
  next backend =>
    cases opens
    exact .inl ⟨backend, rfl, rfl⟩
  next => cases opens
  next connection backend =>
    obtain ⟨provided, provides, opens⟩ := Result.bind_eq_ok.1 opens
    exact .inr ⟨connection, provided, backend, rfl, provides, opens⟩

section
variable (lasting : settings.backend = .database → ∀ connection ∈ connection?, connection.path?.isSome = true)
include lasting

/-- A command is run on the open storage. -/
theorem runCommand_eq [Regex.Engine]
    (writable : settings.backend = .database → ∀ connection ∈ connection?, connection.isWritable = true)
    (opens : openStorage settings connection? files = .ok (storage, opened))
    (read : Program.model files settings.modelPath = .ok model) (command : Command) :
    runCommand command settings connection? files =
      conclude opened (command.run model storage opened) := by
  unfold runCommand
  rw [read]
  rcases openStorage_cases opens with ⟨backend, rfl, rfl⟩ |
    ⟨connection, provided, backend, rfl, provides, opens⟩
  · simp only [backend]
  · obtain ⟨path, named⟩ := Option.isSome_iff_exists.1 (lasting backend connection rfl)
    simp only [backend, runDatabase, runConnected, provides, opens, Connection.close, named,
      writable backend connection rfl]
    cases command.run model storage opened with
    | error error => rfl
    | ok result => rfl

/-- Opening a storage does not touch the model, for neither nothing nor a database is one. -/
theorem model_open (opens : openStorage settings connection? files = .ok (storage, opened))
    (read : Program.model files path = .ok model) : Program.model opened path = .ok model := by
  rcases openStorage_cases opens with ⟨backend, rfl, rfl⟩ |
    ⟨connection, provided, backend, rfl, provides, opens⟩
  · exact read
  · have readProvided : Program.model provided path = .ok model := by
      rcases Connection.provide_cases (lasting backend connection rfl) provides with
        rfl | ⟨place, free, rfl⟩
      · exact read
      · exact model_put read (by simp [free]) (by simp [free]) _
    obtain ⟨place, content, database, -, there, known, -, ⟨-, rfl⟩ | rfl⟩ :=
      Connection.openIn_cases opens
    · exact readProvided
    · refine model_put readProvided (by simp [there]) ?_ _
      intro text found
      rw [there] at found
      cases found
      exact Model.ofText_short (Connection.short_of_databaseIn? known) model

end

/-- The storage that the settings name, when it is there already. -/
inductive Stands (settings : Settings) (connection? : Option Connection) (files : FileTree) : Storage → Prop
  | text (backend : settings.backend = .file) : Stands settings connection? files (.text settings.policyPath)
  | database {connection : Connection} {place : Place} {table : PolicyTable}
      (backend : settings.backend = .database) (connected : connection? = some connection)
      (leads : connection.place files = .ok place)
      (there : files.at? place = some (.file (.database ⟨some table⟩))) :
      Stands settings connection? files (.database (FileTree.pathOf place))

/-- A storage that has been opened is there. -/
theorem stands_of_open (opens : openStorage settings connection? files = .ok (storage, opened)) :
    Stands settings connection? opened storage := by
  rcases openStorage_cases opens with ⟨backend, rfl, rfl⟩ |
    ⟨connection, provided, backend, connected, -, opens⟩
  · exact .text backend
  · obtain ⟨place, content, database, leads, there, known, rfl, ⟨table, rfl⟩ | rfl⟩ :=
      Connection.openIn_cases opens
    · rw [Connection.eq_of_databaseIn? known table] at there
      obtain ⟨table?⟩ := database
      obtain ⟨table, rfl⟩ := Option.isSome_iff_exists.1 table
      exact .database backend connected leads there
    · have moved : (provided.put place (.file (.database database.migrate))).at? place =
          some (.file (.database ⟨some (database.table?.getD {})⟩)) := by
        rw [FileTree.at?_put (by simp [there]), if_pos rfl]
        rfl
      exact .database backend connected ((Connection.place_put there _).trans leads) moved

namespace Stands

/-- A storage that is there is opened without effect. -/
theorem opens (stands : Stands settings connection? files storage)
    (lasting : settings.backend = .database →
      ∀ connection ∈ connection?, connection.path?.isSome = true) :
    openStorage settings connection? files = .ok (storage, files) := by
  unfold openStorage
  cases stands with
  | text backend => rw [backend]
  | @database connection _ _ backend connected leads there =>
    rw [backend, connected]
    exact Result.bind_eq_ok.2
      ⟨files, Connection.provide_of_file (lasting backend connection connected) leads there,
        Connection.openIn_of_table leads there⟩

/-- A storage is still there when a policy has been saved in it. -/
theorem save (stands : Stands settings connection? files storage) {rules : RuleSet}
    (done : storage.save files rules = .ok saved) : Stands settings connection? saved storage := by
  cases stands with
  | text backend => exact .text backend
  | @database connection place table backend connected leads there =>
    obtain ⟨place', before, table', -, there', rfl⟩ := Storage.save_database done
    have leads' : connection.place (files.put place' (.file (.database ⟨some table'⟩))) = .ok place :=
      (Connection.place_put there' _).trans leads
    have free : files.at? place' ≠ some .directory := by simp [there']
    have there'' := FileTree.at?_put free (.file (.database ⟨some table'⟩)) place
    by_cases same : place = place'
    · rw [if_pos same] at there''
      exact .database backend connected leads' there''
    · rw [if_neg same, there] at there''
      exact .database backend connected leads' there''

end Stands
end Program
end AccessControl
