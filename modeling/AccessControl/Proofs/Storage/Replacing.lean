import AccessControl.Proofs.Action
import AccessControl.Proofs.Storage.Files
import AccessControl.Storage.Replacement
/-!
Files that are replaced. Until the rename, the files are what they were but for the temporary file, which
stands where nothing stood before. Therefore the deletion of the temporary file undoes all that has been
done, and the rename leaves just what a single write would leave.
-/
namespace AccessControl

namespace FileTree
variable {files : FileTree} {place : Place} {path : String} {fault : FileFault}

theorem walk_cons (files : FileTree) (here : Place) (name : String) (rest : List String) :
    files.walk here (name :: rest) =
      match files.at? here with
      | none => .error .notFound
      | some (.file _) => .error .notADirectory
      | some .directory => files.walk (enter here name) rest := rfl

theorem walk_append (files : FileTree) (here : Place) (before names : List String) :
    files.walk here (before ++ names) = files.walk here before >>= fun there => files.walk there names := by
  induction before generalizing here with
  | nil => rfl
  | cons name rest ih =>
    rw [List.cons_append, walk_cons, walk_cons]
    split
    · rfl
    · rfl
    next => exact ih (enter here name)

/-- A walk that cannot enter a place fails alike whatever the names are. -/
theorem walk_eq_error {here : Place} {name name' : String} {rest rest' : List String}
    (stopped : files.at? here ≠ some .directory) :
    files.walk here (name :: rest) = files.walk here (name' :: rest') := by
  rw [walk_cons, walk_cons]
  split
  · rfl
  · rfl
  next directory => exact absurd directory stopped

/-- Without its directory a path leads nowhere. -/
theorem place_of_parentPlace (lost : files.parentPlace path = .error fault) :
    files.place path = .error fault := by
  unfold parentPlace at lost
  split at lost
  next => cases lost
  next last before stripped =>
    have parts := List.takeWhile_append_dropWhile (p := isStill) (l := (names path).reverse)
    rw [stripped, ← List.reverse_eq_iff, List.reverse_append, List.reverse_cons,
      List.append_assoc] at parts
    have named : path ≠ "" := by
      rintro rfl
      cases stripped
    rw [place, if_neg named, ← parts, walk_append]
    rw [walk_append] at lost
    cases walked : files.walk (files.start path) before.reverse with
    | error fault' =>
      rw [walked] at lost
      exact lost
    | ok there =>
      rw [walked] at lost
      have stopped : files.at? there ≠ some .directory := by
        intro directory
        change files.walk there ["."] = .error fault at lost
        rw [walk_cons, directory] at lost
        cases lost
      exact (walk_eq_error stopped).trans lost

theorem write_of_parentPlace (lost : files.parentPlace path = .error fault) (content : Content) :
    files.write path content = .error fault := by
  unfold write
  rw [place_of_parentPlace lost]
  rfl

section Absent
variable (absent : files.at? place = none)
include absent

theorem ne_of_absent {entry : Place × Entry} (inside : entry ∈ files.entries) : entry.1 ≠ place := by
  unfold at? at absent
  split at absent
  · cases absent
  next =>
    rw [Option.map_eq_none_iff, List.find?_eq_none] at absent
    simpa using absent entry inside

theorem put_of_absent (entry : Entry) :
    files.put place entry = { files with entries := files.entries ++ [(place, entry)] } := by
  have none : ¬files.entries.any (·.1 == place) = true := by
    rw [List.any_eq_true]
    rintro ⟨old, inside, same⟩
    exact ne_of_absent absent inside (eq_of_beq same)
  rw [put, if_neg none]

/-- What is put where nothing stood can be replaced. -/
theorem put_put (entry entry' : Entry) :
    (files.put place entry).put place entry' = files.put place entry' := by
  rw [put_of_absent absent, put_of_absent absent, put, if_pos (by simp)]
  have kept : files.entries.map (fun old => if old.1 = place then (place, entry') else old) =
      files.entries :=
    (List.map_congr_left fun old inside => if_neg (ne_of_absent absent inside)).trans (List.map_id _)
  simp [kept]

/-- What is put where nothing stood can be taken away again. -/
theorem unlink_put (entry : Entry) : (files.put place entry).unlink place = files := by
  have kept : files.entries.filter (·.1 != place) = files.entries :=
    List.filter_eq_self.2 fun old inside => by simpa using ne_of_absent absent inside
  rw [put_of_absent absent, unlink]
  simp [kept]

end Absent
end FileTree

namespace Disk
variable {disk : Disk} {files : FileTree} {place : Place} {path text : String}

/-- Whether a disk gives a reason why files are not replaced. -/
def Faults (disk : Disk) (fault : FileFault) : Prop := ∃ step ≠ FileStep.read, disk.fault? step = some fault

theorem not_faults_reliable {fault : FileFault} : ¬reliable.Faults fault := nofun

theorem ensures_attempt_bind (disk : Disk) (step : FileStep) {α : Type} {next : Unit → Filing α}
    {yields : α → FileTree → Prop} {fails : FileFault → FileTree → Prop}
    (rest : (next ()).Ensures files yields fails)
    (failed : ∀ fault, disk.fault? step = some fault → fails fault files) :
    (disk.attempt step >>= next).Ensures files yields fails := by
  unfold attempt
  split
  next => exact rest
  next fault given => exact failed fault given

/-- A temporary file is made where nothing stood. -/
theorem ensures_create (disk : Disk) (files : FileTree) (path : String) (content : Content) :
    (disk.create path).Ensures files
      (fun place after => files.at? place = none ∧ ∃ draft, after = files.put place (.file draft))
      fun fault after =>
        (disk.Faults fault ∨ files.write path content = .error fault) ∧ after = files := by
  refine disk.ensures_attempt_bind .create ?_ fun fault given => ⟨.inl ⟨.create, nofun, given⟩, rfl⟩
  refine .of_get_bind (.of_lift_bind ?_ ?_)
  · intro directory _
    exact .of_bind (.of_set rfl) fun _ _ made => .of_pure ⟨disk.fresh files directory, _, made⟩
  · intro fault lost
    exact ⟨.inr (FileTree.write_of_parentPlace lost content), rfl⟩

/-- A file that is filled holds the text, or what is left of it. -/
theorem ensures_fill (disk : Disk) {place : Place} (absent : files.at? place = none) (draft : Content)
    (text : String) :
    (disk.fill place text).Ensures (files.put place (.file draft))
      (fun _ after => after = files.put place (.file (.text text)))
      fun fault after => disk.Faults fault ∧ ∃ draft, after = files.put place (.file draft) := by
  unfold fill
  split
  next => exact .of_modify (FileTree.put_put absent _ _)
  next fault failed =>
    exact .of_bind (.of_modify (FileTree.put_put absent _ _)) fun _ _ left =>
      .of_throw ⟨⟨.fill, nofun, failed⟩, _, left⟩

theorem ensures_rename (disk : Disk) {place : Place} (absent : files.at? place = none)
    (content : Content) (path : String) :
    (disk.rename place path).Ensures (files.put place (.file content))
      (fun _ after => files.write path content = .ok after)
      fun fault after => (disk.Faults fault ∨ files.write path content = .error fault) ∧
        ∃ draft, after = files.put place (.file draft) := by
  refine disk.ensures_attempt_bind .rename ?_ fun fault given => ⟨.inl ⟨.rename, nofun, given⟩, _, rfl⟩
  apply Action.Ensures.of_get_bind
  have there : (files.put place (.file content)).at? place = some (.file content) := by
    rw [FileTree.at?_put (by simp [absent]), if_pos rfl]
  rw [there, FileTree.unlink_put absent]
  refine .of_lift_bind ?_ ?_
  · intro after written
    exact .of_set written
  · intro fault failed
    exact ⟨.inr failed, _, rfl⟩

/-- Unless the temporary file becomes the one at the path, it is still all that there is besides the
other files. -/
theorem ensures_finish (disk : Disk) {place : Place} (absent : files.at? place = none) (draft : Content)
    (path text : String) :
    (disk.finish place path text).Ensures (files.put place (.file draft))
      (fun _ after => files.write path (.text text) = .ok after)
      fun fault after => (disk.Faults fault ∨ files.write path (.text text) = .error fault) ∧
        ∃ draft, after = files.put place (.file draft) := by
  refine .of_bind ((disk.ensures_fill absent draft text).mono (fun _ _ filled => filled)
    fun _ _ ⟨given, left⟩ => ⟨.inl given, left⟩) ?_
  rintro ⟨⟩ _ rfl
  refine disk.ensures_attempt_bind .sync ?_ fun fault given => ⟨.inl ⟨.sync, nofun, given⟩, _, rfl⟩
  exact disk.ensures_rename absent (.text text) path

/-- A temporary file that does not become the one at the path is deleted. -/
theorem ensures_replace (disk : Disk) (files : FileTree) (path text : String) :
    (disk.replace path text).Ensures files
      (fun _ after => files.write path (.text text) = .ok after)
      fun fault after =>
        (disk.Faults fault ∨ files.write path (.text text) = .error fault) ∧ after = files := by
  refine .of_bind (disk.ensures_create files path (.text text)) ?_
  rintro place _ ⟨absent, draft, rfl⟩
  refine .of_catch (disk.ensures_finish absent draft path text) ?_
  rintro fault _ ⟨reason, draft, rfl⟩
  exact .of_bind (.of_modify (FileTree.unlink_put absent _)) fun _ _ same => .of_throw ⟨reason, same⟩

/-- A file is replaced as one write would do it, or nothing is changed. -/
theorem replace_follows (disk : Disk) (files : FileTree) (path text : String) :
    (disk.replace path text).Follows disk.Faults files ((files.write path (.text text)).map ((), ·)) := by
  refine (disk.ensures_replace files path text).mono ?_ ?_
  · intro _ after written
    exact Result.map_eq_ok.2 ⟨after, written, rfl⟩
  · rintro fault after ⟨reason, same⟩
    exact ⟨reason.imp_right Result.map_eq_error.2, same⟩

theorem read_follows (disk : Disk) (files : FileTree) (path : String) :
    (disk.read path).Follows (disk.fault? .read = some ·) files ((files.read path).map (·, files)) :=
  disk.ensures_attempt_bind .read (Action.Follows.get_bind (.lift _)) fun _ given => ⟨.inl given, rfl⟩

end Disk
end AccessControl
