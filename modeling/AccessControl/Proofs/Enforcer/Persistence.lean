import AccessControl.Proofs.Enforcer.Loading
import AccessControl.Proofs.Enforcer.Reloading
/-!
Loading and saving as a whole or not at all. Whichever step fails, whether the platform fails it or what is
stored does not fit, all stays as it was, in memory and on disk. If no step fails, the stored rules have
replaced the present ones, or the present rules the stored ones, and nothing else has changed.
-/
namespace AccessControl

namespace World
open Text
variable {world after : World} {platform : Platform} {error : Error}

/-- Why rules are not loaded, and the error that tells it. -/
inductive LoadFault (world : World) (platform : Platform) : Error → Prop
  | noStorage (none : world.enforcer.storage? = none) : LoadFault world platform .noStorage
  | unreadable {path : String} (kept : world.enforcer.storage? = some (.text path)) {fault : FileFault}
      (reason : platform.disk.fault? .read = some fault ∨ world.files.read path = .error fault) :
      LoadFault world platform (.storage path fault)
  | malformedRow {path : String} (kept : world.enforcer.storage? = some (.text path)) {text : String}
      (stored : world.files.read path = .ok text) {number : Nat} {raw : List Char}
      (line : (number, raw) ∈ numberedLines text.toList) {fault : Row.Fault}
      (malformed : Row.read (trim raw) = .error fault) :
      LoadFault world platform (.malformedRow number fault)
  | database {path : String} (kept : world.enforcer.storage? = some (.database path))
      (reason : platform.fails .query = true ∨
        ∀ rows, Storage.databaseAt world.files path ≠ .ok ⟨some rows⟩) :
      LoadFault world platform .database
  | misfit {storage : Storage} (kept : world.enforcer.storage? = some storage) {rules : RuleSet}
      (stored : storage.load world.files = .ok rules) {rule : Rule} (inside : rule ∈ rules.toList)
      {error : Error} (misfit : rule.Misfit world.enforcer.model error) : LoadFault world platform error

namespace LoadFault

theorem of_fails (failed : world.Fails platform.FailsLoad error) : world.LoadFault platform error := by
  obtain ⟨storage, kept, reason⟩ := failed
  cases storage with
  | text path =>
    obtain ⟨fault, given, rfl⟩ := reason
    exact .unreadable kept (.inl given)
  | database path =>
    obtain ⟨rfl, given⟩ := reason
    exact .database kept (.inl given)

theorem of_load {storage : Storage} (kept : world.enforcer.storage? = some storage)
    (failed : storage.load world.files = .error error) : world.LoadFault platform error := by
  cases storage with
  | text path =>
    rw [Storage.load_text] at failed
    cases stored : world.files.read path with
    | error fault =>
      rw [stored] at failed
      cases failed
      exact .unreadable kept (.inr stored)
    | ok text =>
      rw [stored] at failed
      obtain ⟨number, raw, fault, line, malformed, rfl⟩ :=
        PolicyText.exists_of_readLines_eq_error (Result.map_eq_error.1 failed)
      exact .malformedRow kept stored line malformed
  | database path =>
    obtain ⟨rfl, missing⟩ := Storage.database_of_load_eq_error failed
    exact .database kept (.inr missing)

theorem of_loaded [Regex.Engine] (reachable : world.enforcer.Reachable) (failed : world.loaded = .error error) :
    world.LoadFault platform error := by
  cases kept : world.enforcer.storage? with
  | none =>
    unfold loaded Enforcer.storage at failed
    rw [kept] at failed
    cases failed
    exact .noStorage kept
  | some storage =>
    rw [loaded_eq kept] at failed
    cases stored : storage.load world.files with
    | error error' =>
      rw [stored] at failed
      cases failed
      exact .of_load kept stored
    | ok rules =>
      rw [stored] at failed
      obtain ⟨rule, inside, misfit⟩ :=
        Enforcer.misfit_of_replaceRules reachable (Result.map_eq_error.1 failed)
      exact .misfit kept stored inside misfit

end LoadFault

/-- Why rules are not saved, and the error that tells it. -/
inductive SaveFault (world : World) (platform : Platform) : Error → Prop
  | noStorage (none : world.enforcer.storage? = none) : SaveFault world platform .noStorage
  | unwritable {path : String} (kept : world.enforcer.storage? = some (.text path)) {fault : FileFault}
      (reason : platform.disk.Faults fault ∨ ∀ content, world.files.write path content = .error fault) :
      SaveFault world platform (.storage path fault)
  | tooWide {path : String} (kept : world.enforcer.storage? = some (.database path)) {index : Nat}
      {rule : Rule} (placed : world.enforcer.rules.toList[index]? = some rule)
      (wide : tableColumns < rule.fields.length) : SaveFault world platform
        (.malformedRow (index + 1) (.tooWide rule.type rule.fields.length tableColumns))
  | database {path : String} (kept : world.enforcer.storage? = some (.database path))
      (reason : (∃ step ≠ TableStep.query, platform.fails step = true) ∨
        ∀ rows, Storage.databaseAt world.files path ≠ .ok ⟨some rows⟩) :
      SaveFault world platform .database

namespace SaveFault

theorem of_fails (failed : world.Fails platform.FailsSave error) : world.SaveFault platform error := by
  obtain ⟨storage, kept, reason⟩ := failed
  cases storage with
  | text path =>
    obtain ⟨fault, given, rfl⟩ := reason
    exact .unwritable kept (.inl given)
  | database path =>
    obtain ⟨rfl, given⟩ := reason
    exact .database kept (.inl given)

/-- The rules of a reachable enforcer can be written in a text, so only the file can be at fault. -/
theorem of_saved [Regex.Engine] (reachable : world.enforcer.Reachable) (failed : world.saved = .error error) :
    world.SaveFault platform error := by
  cases kept : world.enforcer.storage? with
  | none =>
    unfold saved Enforcer.storage at failed
    rw [kept] at failed
    cases failed
    exact .noStorage kept
  | some storage =>
    rw [saved_eq kept] at failed
    have unsaved := Result.map_eq_error.1 failed
    cases storage with
    | text path =>
      have holds : (Storage.text path).Holds world.enforcer.rules :=
        (Enforcer.sound_of_reachable reachable).holds nofun
      obtain ⟨fault, rfl, unwritable⟩ :=
        Storage.unwritable_of_save_eq_error (fun rule stored => (holds rule stored).2) unsaved
      exact .unwritable kept (.inr unwritable)
    | database path =>
      rcases Storage.tooWide_or_database_of_save_eq_error unsaved with
        ⟨index, rule, placed, wide, rfl⟩ | ⟨rfl, missing⟩
      · exact .tooWide kept placed wide
      · exact .database kept (.inr missing)

end SaveFault

variable [Regex.Engine]

/-- What it means that on a platform loading and saving are done as a whole or not at all. -/
structure AllOrNothing (world : World) (platform : Platform) : Prop where
  /-- The enforcer has taken over all that is stored, or it is as it was and there is a fault; the files
  are as they were in any case. -/
  load : (load platform).Ensures world
    (fun _ after => after.files = world.files ∧ ∃ storage rules,
      world.enforcer.storage? = some storage ∧ storage.load world.files = .ok rules ∧
        world.enforcer.TakesOver rules after.enforcer)
    fun error after => after = world ∧ world.LoadFault platform error
  /-- The file of the storage holds the rules of the enforcer and there is no other change to the files,
  or they are as they were and there is a fault; the enforcer is as it was in any case. -/
  save : (save platform).Ensures world
    (fun _ after => after.enforcer = world.enforcer ∧ ∃ storage, world.enforcer.storage? = some storage ∧
      storage.load after.files = .ok world.enforcer.rules ∧
      ∃ place content, world.files.place storage.path = .ok place ∧
        after.files = world.files.put place (.file content))
    fun error after => after = world ∧ world.SaveFault platform error

/-- Where the rules of a reachable enforcer are loaded, it has taken over what is stored. -/
theorem of_loaded (reachable : world.enforcer.Reachable) (done : world.loaded = .ok after) :
    after.files = world.files ∧ ∃ storage rules, world.enforcer.storage? = some storage ∧
      storage.load world.files = .ok rules ∧ world.enforcer.TakesOver rules after.enforcer := by
  obtain ⟨storage, there, rest⟩ := Result.bind_eq_ok.1 done
  obtain ⟨rules, stored, replaced⟩ := Result.bind_eq_ok.1 rest
  obtain ⟨enforcer, accepted, rfl⟩ := Result.map_eq_ok.1 replaced
  exact ⟨rfl, storage, rules, Enforcer.storage_eq_ok.1 there, stored,
    Enforcer.takesOver_of_replaceRules reachable accepted⟩

/-- Where a reachable enforcer is saved, its storage holds its rules afterwards and nothing else has
changed. -/
theorem of_saved (reachable : world.enforcer.Reachable) (done : world.saved = .ok after) :
    after.enforcer = world.enforcer ∧ ∃ storage, world.enforcer.storage? = some storage ∧
      storage.load after.files = .ok world.enforcer.rules ∧
      ∃ place content, world.files.place storage.path = .ok place ∧
        after.files = world.files.put place (.file content) := by
  cases kept : world.enforcer.storage? with
  | none =>
    unfold saved Enforcer.storage at done
    rw [kept] at done
    cases done
  | some storage =>
    rw [saved_eq kept] at done
    obtain ⟨files, written, rfl⟩ := Result.map_eq_ok.1 done
    have narrow : ∀ path, storage = .database path →
        ∀ rule ∈ world.enforcer.rules.toList, rule.fields.length ≤ tableColumns := by
      rintro path rfl
      exact Storage.narrow_of_save written
    obtain ⟨files', written', stored⟩ := (Enforcer.settled_of_reachable reachable).exists_savePolicy kept
      (Storage.available_of_save written) narrow
    rw [Enforcer.savePolicy_eq kept, written] at written'
    cases written'
    obtain ⟨place, content, leads, -, same⟩ := Storage.put_of_save written
    exact ⟨rfl, storage, rfl, stored, place, content, leads, same⟩

/-- Whatever the operations were that have led to an enforcer, whatever its storage and all files hold and
whichever steps the platform fails, its rules are loaded and saved as a whole or not at all. -/
theorem allOrNothing_of_reachable (reachable : world.enforcer.Reachable) (platform : Platform) :
    world.AllOrNothing platform where
  load := by
    refine (load_follows platform world).ensures.mono ?_ ?_
    · intro _ after done
      exact of_loaded reachable done
    · rintro error after ⟨failed | failed, same⟩
      · exact ⟨same, .of_fails failed⟩
      · exact ⟨same, .of_loaded reachable failed⟩
  save := by
    refine (save_follows platform world).ensures.mono ?_ ?_
    · intro _ after done
      exact of_saved reachable done
    · rintro error after ⟨failed | failed, same⟩
      · exact ⟨same, .of_fails failed⟩
      · exact ⟨same, .of_saved reachable failed⟩

end World

/-- A platform that cannot rename files, nor add more than the first batch of rows. -/
def Platform.jammed : Platform where
  disk := { Disk.reliable with
    fault? := fun step => if step = .rename then some .notADirectory else none }
  fails step := step == .insert 2

/-- A directory with a policy in it that has a rule of an unknown type. -/
def Tenants.strayFiles : FileTree where
  entries := [(["policy"], .directory),
    (["policy", "rules"], .file (.text "p, admin, one, allow\nq, alice, admin, one\n"))]

/-- A policy that can neither be loaded nor, where no file can be renamed, be saved. -/
theorem World.allOrNothing_of_tenants : World.AllOrNothing
    ⟨Enforcer.run { Tenants.enforcer with storage? := some (.text "policy/rules") }
      [.add "p" ["admin", "one", "allow"], .addRole "alice" "admin" (some "one")],
      Tenants.strayFiles⟩ .jammed := by
  apply World.allOrNothing_of_reachable
  exact .intro Tenants.ofText_text Tenants.ofModel_model (some (.text "policy/rules")) _

end AccessControl
