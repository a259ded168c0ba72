import AccessControl.Proofs.Result
import AccessControl.Storage.FileTree
/-!
Files that are written and read back. A path leads through directories only, and a file is never put in
the place of one; so every path goes on leading where it led, and what it leads to changes only if it is
the file that was put there.
-/
namespace AccessControl.FileTree
variable {files after : FileTree} {place : Place} {content : Content} {path : String}

@[simp] theorem directory_put (files : FileTree) (place : Place) (entry : Entry) :
    (files.put place entry).directory = files.directory := by
  unfold put
  split
  · rfl
  · rfl

theorem find?_replace (entries : List (Place × Entry)) (place other : Place) (entry : Entry) :
    ((entries.map fun old => if old.1 = place then (place, entry) else old).find?
        fun old => old.1 == other).map (·.2) =
      if other = place ∧ entries.any (·.1 == place) = true then some entry
      else (entries.find? fun old => old.1 == other).map (·.2) := by
  induction entries with
  | nil => simp
  | cons first rest ih =>
    by_cases here : first.1 = place
    · by_cases same : other = place
      · simp [here, same]
      · have distinct : ¬place = other := Ne.symm same
        simpa [here, same, distinct] using ih
    · by_cases same : first.1 = other
      · have distinct : ¬other = place := same ▸ here
        simp [same, distinct]
      · have elsewhere : (first.1 == place) = false := beq_eq_false_iff_ne.2 here
        rw [List.map_cons, if_neg here, List.find?_cons_of_neg (by simpa using same), ih, List.any_cons,
          elsewhere, Bool.false_or, List.find?_cons_of_neg (by simpa using same)]

theorem find?_put (files : FileTree) (place other : Place) (entry : Entry) :
    ((files.put place entry).entries.find? fun old => old.1 == other).map (·.2) =
      if other = place then some entry
      else (files.entries.find? fun old => old.1 == other).map (·.2) := by
  unfold put
  split
  next present =>
    have replaced := find?_replace files.entries place other entry
    rw [replaced]
    simp only [present, and_true]
  next absent =>
    rw [List.find?_append]
    by_cases same : other = place
    · have none : files.entries.find? (fun old => old.1 == place) = none := by
        rw [List.find?_eq_none]
        intro old inside
        exact fun equal => absent (List.any_eq_true.2 ⟨old, inside, equal⟩)
      simp [same, none]
    · have distinct : ¬place = other := Ne.symm same
      simp [same, distinct]

theorem at?_put (free : files.at? place ≠ some .directory) (entry : Entry) (other : Place) :
    (files.put place entry).at? other = if other = place then some entry else files.at? other := by
  have outside : ¬place.isPrefixOf files.directory = true := by
    intro inside
    exact free (by rw [at?, if_pos inside])
  unfold at?
  rw [directory_put, find?_put]
  by_cases same : other = place
  · rw [if_pos same, if_pos same, same, if_neg outside]
  · rw [if_neg same, if_neg same]

/-- Where no directory stands, no path leads any further. -/
theorem walk_put (free : files.at? place ≠ some .directory) (content : Content) {here there : Place}
    {names : List String} (walked : files.walk here names = .ok there) :
    (files.put place (.file content)).walk here names = .ok there := by
  induction names generalizing here with
  | nil => exact walked
  | cons name rest ih =>
    unfold walk at walked ⊢
    split at walked
    · cases walked
    · cases walked
    next directory =>
      have distinct : here ≠ place := by
        rintro rfl
        exact free directory
      rw [at?_put free, if_neg distinct, directory]
      exact ih walked

@[simp] theorem start_put (files : FileTree) (place : Place) (entry : Entry) (path : String) :
    (files.put place entry).start path = files.start path := by
  unfold FileTree.start
  rw [directory_put]

theorem place_put (free : files.at? place ≠ some .directory) (content : Content) {there : Place}
    (leads : files.place path = .ok there) :
    (files.put place (.file content)).place path = .ok there := by
  unfold FileTree.place at leads ⊢
  split at leads
  · cases leads
  next some =>
    rw [if_neg some, start_put]
    exact walk_put free content leads

/-- Names add up to the same place when a file is replaced. -/
theorem plainPlace_put {old : Content} (there : files.at? place = some (.file old)) (content : Content)
    (path : String) : (files.put place (.file content)).plainPlace path = files.plainPlace path := by
  have follow : ∀ (here : Place) (names : List String),
      (files.put place (.file content)).follow here names = files.follow here names := by
    intro here names
    induction names generalizing here with
    | nil => rfl
    | cons name rest ih =>
      unfold FileTree.follow
      simp only [ih]
      rw [at?_put (by simp [there])]
      by_cases same : here = place
      · rw [if_pos same, same, there]
      · rw [if_neg same]
  unfold plainPlace
  rw [start_put, follow]

theorem content_eq_ok : files.content path = .ok content ↔
    ∃ place, files.place path = .ok place ∧ files.at? place = some (.file content) := by
  unfold FileTree.content
  rw [Result.bind_eq_ok]
  constructor
  · rintro ⟨place, leads, found⟩
    split at found
    · cases found
    · cases found
    next there =>
      cases found
      exact ⟨place, leads, there⟩
  · rintro ⟨place, leads, found⟩
    exact ⟨place, leads, by rw [found]⟩

theorem read_eq_ok {text : String} :
    files.read path = .ok text ↔ files.content path = .ok (.text text) := by
  unfold FileTree.read
  rw [Result.bind_eq_ok]
  constructor
  · rintro ⟨content, found, done⟩
    split at done
    · cases done
      exact found
    · cases done
  · intro found
    exact ⟨.text text, found, rfl⟩

theorem write_eq_ok : files.write path content = .ok after ↔
    ∃ place, files.place path = .ok place ∧ files.at? place ≠ some .directory ∧
      after = files.put place (.file content) := by
  unfold FileTree.write
  rw [Result.bind_eq_ok]
  constructor
  · rintro ⟨place, leads, done⟩
    split at done
    · cases done
    next free =>
      cases done
      exact ⟨place, leads, free, rfl⟩
  · rintro ⟨place, leads, free, rfl⟩
    refine ⟨place, leads, ?_⟩
    split
    next directory => exact absurd directory free
    next => rfl

/-- What was written is there to be read. -/
theorem content_of_write (written : files.write path content = .ok after) :
    after.content path = .ok content := by
  obtain ⟨place, leads, free, rfl⟩ := write_eq_ok.1 written
  refine content_eq_ok.2 ⟨place, place_put free content leads, ?_⟩
  rw [at?_put free, if_pos rfl]

/-- What is read elsewhere stays as it is. -/
theorem content_put {other : Content} (found : files.content path = .ok other)
    (free : files.at? place ≠ some .directory) (apart : files.at? place ≠ some (.file other))
    (content : Content) : (files.put place (.file content)).content path = .ok other := by
  obtain ⟨there, leads, stands⟩ := content_eq_ok.1 found
  have distinct : there ≠ place := by
    rintro rfl
    exact apart stands
  refine content_eq_ok.2 ⟨there, place_put free content leads, ?_⟩
  rw [at?_put free, if_neg distinct, stands]

theorem exists_write (leads : files.place path = .ok place) (free : files.at? place ≠ some .directory)
    (content : Content) : ∃ after, files.write path content = .ok after :=
  ⟨_, write_eq_ok.2 ⟨place, leads, free, rfl⟩⟩

/-- Whether and why a file cannot be written does not depend on what is to be in it. -/
theorem write_eq_error {fault : FileFault} (failed : files.write path content = .error fault)
    (other : Content) : files.write path other = .error fault := by
  rcases Result.bind_eq_error.1 failed with lost | ⟨place, leads, stopped⟩
  · exact Result.bind_eq_error.2 (.inl lost)
  · by_cases directory : files.at? place = some .directory
    · refine Result.bind_eq_error.2 (.inr ⟨place, leads, ?_⟩)
      rw [directory] at stopped ⊢
      exact stopped
    · obtain ⟨after, written⟩ := exists_write leads directory content
      rw [failed] at written
      cases written

end AccessControl.FileTree
