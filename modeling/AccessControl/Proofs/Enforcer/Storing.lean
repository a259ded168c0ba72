import AccessControl.Enforcer
import AccessControl.Proofs.Storage.Platforms
/-!
Enforcers that are loaded and saved on platforms that may fail. An enforcer takes over the stored rules, or
the files take over its rules, as on the reliable platform; or the action fails, and neither the enforcer nor
any file has changed.
-/
namespace AccessControl

theorem Enforcer.storage_eq_ok {enforcer : Enforcer} {storage : Storage} :
    enforcer.storage = .ok storage ↔ enforcer.storage? = some storage := by
  unfold Enforcer.storage
  cases enforcer.storage? with
  | some storage' => simp
  | none => simp

namespace World
variable {world : World} {error : Error}

/-- Whether there is a reason of some kind why the storage of the enforcer fails. -/
def Fails (world : World) (reason : Storage → Error → Prop) (error : Error) : Prop :=
  ∃ storage, world.enforcer.storage? = some storage ∧ reason storage error

theorem not_failsLoad_reliable : ¬world.Fails Platform.reliable.FailsLoad error := by
  rintro ⟨storage, -, failed⟩
  exact Platform.not_failsLoad_reliable failed

theorem not_failsSave_reliable : ¬world.Fails Platform.reliable.FailsSave error := by
  rintro ⟨storage, -, failed⟩
  exact Platform.not_failsSave_reliable failed

theorem ensures_store {α : Type} {action : Storing α} {yields : α → World → Prop}
    {fails : Error → World → Prop}
    (ensured : action.Ensures world.files (fun value files => yields value { world with files })
      fun error files => fails error { world with files }) :
    (store action).Ensures world yields fails := by
  have run : (store action).run world =
      ((action.run world.files).1, { world with files := (action.run world.files).2 }) := rfl
  unfold Action.Ensures
  rw [run]
  rcases ensured.cases with ⟨value, after, ended, holds⟩ | ⟨error, after, ended, holds⟩
  · rw [ended]
    exact holds
  · rw [ended]
    exact holds

/-- What comes of loading the rules when no step fails. -/
def loaded (world : World) : Except Error World := do
  let rules ← (← world.enforcer.storage).load world.files
  (world.enforcer.replaceRules rules).map (World.mk · world.files)

/-- What comes of saving the rules when no step fails. -/
def saved (world : World) : Except Error World := do
  ((← world.enforcer.storage).save world.files world.enforcer.rules).map (World.mk world.enforcer)

section Kept
variable {storage : Storage} (kept : world.enforcer.storage? = some storage)
include kept

theorem loaded_eq : world.loaded = (storage.load world.files >>= fun rules =>
    (world.enforcer.replaceRules rules).map (World.mk · world.files)) := by
  unfold loaded
  rw [Enforcer.storage_eq_ok.2 kept]
  rfl

theorem saved_eq : world.saved =
    (storage.save world.files world.enforcer.rules).map (World.mk world.enforcer) := by
  unfold saved
  rw [Enforcer.storage_eq_ok.2 kept]
  rfl

/-- What a storage does to the files leaves the enforcer alone. -/
theorem store_follows {reason : Storage → Error → Prop} {α : Type} {action : Storing α}
    {intended : Except Error (α × FileTree)}
    (follows : action.Follows (reason storage) world.files intended) :
    (store action).Follows (world.Fails reason) world
      (intended.map fun ended => (ended.1, { world with files := ended.2 })) := by
  refine ensures_store (Action.Ensures.mono follows ?_ ?_)
  · intro value files same
    rw [same]
    rfl
  · rintro error files ⟨given | same, rfl⟩
    · exact ⟨.inl ⟨storage, kept, given⟩, rfl⟩
    · exact ⟨.inr (Result.map_eq_error.2 same), rfl⟩

end Kept

/-- The enforcer becomes what the stored rules make of it, or nothing is changed. -/
theorem load_follows (platform : Platform) (world : World) :
    (load platform).Follows (world.Fails platform.FailsLoad) world (world.loaded.map ((), ·)) := by
  unfold loaded
  rw [Result.map_bind]
  refine .get_bind ((Action.Follows.lift _).bind fun storage there => ?_)
  have stored := store_follows (Enforcer.storage_eq_ok.1 there)
    (storage.loadOn_follows platform world.files)
  rw [Result.map_map] at stored
  rw [Result.map_bind]
  refine stored.bind fun rules _ => .get_bind ?_
  rw [Result.map_map]
  exact .lift_bind fun _ => rfl

/-- The files become what the rules of the enforcer make of them, or nothing is changed. -/
theorem save_follows (platform : Platform) (world : World) :
    (save platform).Follows (world.Fails platform.FailsSave) world (world.saved.map ((), ·)) := by
  unfold saved
  rw [Result.map_bind]
  refine .get_bind ((Action.Follows.lift _).bind fun storage there => ?_)
  have stored := store_follows (Enforcer.storage_eq_ok.1 there)
    (storage.saveOn_follows platform world.files world.enforcer.rules)
  rw [Result.map_map] at stored ⊢
  exact stored

end World

namespace Enforcer
variable {enforcer : Enforcer} {files : FileTree}

theorem loadPolicy_eq_ok {after : Enforcer} :
    enforcer.loadPolicy files = .ok after ↔ ∃ storage rules, enforcer.storage? = some storage ∧
      storage.load files = .ok rules ∧ enforcer.replaceRules rules = .ok after := by
  unfold loadPolicy
  rw [(World.load_follows .reliable _).after_eq fun _ => World.not_failsLoad_reliable, World.loaded,
    Result.map_bind, Result.bind_eq_ok]
  constructor
  · rintro ⟨storage, there, rest⟩
    rw [Result.map_bind] at rest
    obtain ⟨rules, stored, replaced⟩ := Result.bind_eq_ok.1 rest
    rw [Result.map_map] at replaced
    obtain ⟨_, accepted, rfl⟩ := Result.map_eq_ok.1 replaced
    exact ⟨storage, rules, storage_eq_ok.1 there, stored, accepted⟩
  · rintro ⟨storage, rules, kept, stored, replaced⟩
    refine ⟨storage, storage_eq_ok.2 kept, ?_⟩
    rw [Result.map_bind]
    refine Result.bind_eq_ok.2 ⟨rules, stored, ?_⟩
    rw [replaced]
    rfl

theorem savePolicy_eq {storage : Storage} (kept : enforcer.storage? = some storage) (files : FileTree) :
    enforcer.savePolicy files = storage.save files enforcer.rules := by
  unfold savePolicy
  rw [(World.save_follows .reliable _).after_eq fun _ => World.not_failsSave_reliable, World.saved_eq kept,
    Result.map_map]
  exact congrFun Except.map_id _

end Enforcer
end AccessControl
