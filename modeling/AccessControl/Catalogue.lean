/-!
Catalogues: at most one entry for a name, kept in the order of the names, which is the order of
their code points. Two catalogues with the same answers to `find?` are therefore equal.
-/
namespace AccessControl

/-- Entries with distinct names, in the order of their names. -/
structure Catalogue (α : Type) where
  entries : List (String × α)
  ordered : entries.Pairwise fun a b => a.1 < b.1

namespace Catalogue
variable {α β : Type}

/-- The catalogue without entries. -/
def empty : Catalogue α := ⟨[], .nil⟩

instance : Inhabited (Catalogue α) := ⟨empty⟩

/-- The names that have an entry, in order. -/
def names (catalogue : Catalogue α) : List String := catalogue.entries.map (·.1)

/-- The entry of `name`. -/
def find? (catalogue : Catalogue α) (name : String) : Option α :=
  (catalogue.entries.find? fun entry => entry.1 == name).map (·.2)

/-- Whether `name` has an entry. -/
def has (catalogue : Catalogue α) (name : String) : Bool := (catalogue.find? name).isSome

/-- Puts an entry at its place among ordered entries, over an earlier one of the same name. -/
def place (name : String) (value : α) : List (String × α) → List (String × α)
  | [] => [(name, value)]
  | entry :: rest =>
    if name < entry.1 then (name, value) :: entry :: rest
    else if name = entry.1 then (name, value) :: rest
    else entry :: place name value rest

theorem mem_place {name : String} {value : α} {entries : List (String × α)} {entry : String × α}
    (found : entry ∈ place name value entries) : entry = (name, value) ∨ entry ∈ entries := by
  induction entries with
  | nil => simpa [place] using found
  | cons first rest ih =>
    rw [place] at found
    split at found
    · simpa using found
    · split at found
      · rcases List.mem_cons.1 found with here | later
        · exact .inl here
        · exact .inr (List.mem_cons_of_mem _ later)
      · rcases List.mem_cons.1 found with here | later
        · exact .inr (here ▸ List.mem_cons_self)
        · exact (ih later).imp id (List.mem_cons_of_mem _)

theorem place_ordered (name : String) (value : α) {entries : List (String × α)}
    (ordered : entries.Pairwise fun a b => a.1 < b.1) :
    (place name value entries).Pairwise fun a b => a.1 < b.1 := by
  induction entries with
  | nil => simp [place]
  | cons first rest ih =>
    obtain ⟨before, tailOrdered⟩ := List.pairwise_cons.1 ordered
    rw [place]
    split
    next smaller =>
      refine List.pairwise_cons.2 ⟨fun entry found => ?_, ordered⟩
      rcases List.mem_cons.1 found with rfl | later
      · exact smaller
      · exact String.lt_trans smaller (before entry later)
    next notSmaller =>
      split
      next same => exact List.pairwise_cons.2 ⟨fun entry found => same ▸ before entry found, tailOrdered⟩
      next other =>
        refine List.pairwise_cons.2 ⟨fun entry found => ?_, ih tailOrdered⟩
        rcases mem_place found with rfl | later
        · have atMost : first.1 ≤ name := String.not_lt.1 notSmaller
          rcases Decidable.em (first.1 < name) with less | notLess
          · exact less
          · exact absurd (String.le_antisymm (String.not_lt.1 notLess) atMost) other
        · exact before entry later

/-- The catalogue with `value` as the entry of `name`. -/
def insert (catalogue : Catalogue α) (name : String) (value : α) : Catalogue α :=
  ⟨place name value catalogue.entries, place_ordered name value catalogue.ordered⟩

/-- The catalogue of some entries; of two with the same name the later one counts. -/
def ofList (entries : List (String × α)) : Catalogue α :=
  entries.foldl (fun catalogue (name, value) => catalogue.insert name value) empty

def map (change : String → α → β) (catalogue : Catalogue α) : Catalogue β where
  entries := catalogue.entries.map fun (name, value) => (name, change name value)
  ordered := by
    rw [List.pairwise_map]
    exact catalogue.ordered

/-- Changes the entry of `name`, if there is one. -/
def modify (catalogue : Catalogue α) (name : String) (change : α → α) : Catalogue α :=
  catalogue.map fun key value => if key = name then change value else value

@[simp] theorem names_map (change : String → α → β) (catalogue : Catalogue α) :
    (catalogue.map change).names = catalogue.names := by
  simp [names, map, Function.comp_def]

@[simp] theorem names_modify (catalogue : Catalogue α) (name : String) (change : α → α) :
    (catalogue.modify name change).names = catalogue.names := names_map _ _

theorem find?_map (change : String → α → β) (catalogue : Catalogue α) (name : String) :
    (catalogue.map change).find? name = (catalogue.find? name).map (change name) := by
  simp only [find?, map, List.find?_map, Option.map_map]
  rw [show ((fun entry : String × β => entry.1 == name) ∘
    fun entry : String × α => (entry.1, change entry.1 entry.2)) = fun entry => entry.1 == name from rfl]
  cases found : catalogue.entries.find? (fun entry => entry.1 == name) with
  | none => rfl
  | some entry =>
    have same : entry.1 = name := by simpa using List.find?_some found
    simp [same]

theorem find?_modify_self (catalogue : Catalogue α) (name : String) (change : α → α) :
    (catalogue.modify name change).find? name = (catalogue.find? name).map change := by
  simp [modify, find?_map]

theorem find?_modify_other (catalogue : Catalogue α) {name other : String} (change : α → α)
    (distinct : other ≠ name) : (catalogue.modify name change).find? other = catalogue.find? other := by
  simp [modify, find?_map, distinct]

theorem find?_insert_self (catalogue : Catalogue α) (name : String) (value : α) :
    (catalogue.insert name value).find? name = some value := by
  simp only [find?, insert]
  induction catalogue.entries with
  | nil => simp [place]
  | cons first rest ih =>
    rw [place]
    split
    · simp
    · split
      · simp
      next other => rw [List.find?_cons_of_neg (by simpa using Ne.symm other)]; exact ih

theorem find?_insert_other (catalogue : Catalogue α) {name other : String} (value : α)
    (distinct : other ≠ name) : (catalogue.insert name value).find? other = catalogue.find? other := by
  simp only [find?, insert]
  induction catalogue.entries with
  | nil => simp [place, Ne.symm distinct]
  | cons first rest ih =>
    rw [place]
    split
    · rw [List.find?_cons_of_neg (by simpa using Ne.symm distinct)]
    · split
      next same =>
        rw [List.find?_cons_of_neg (by simpa using Ne.symm distinct),
          List.find?_cons_of_neg (by simpa [← same] using Ne.symm distinct)]
      · rw [List.find?_cons, List.find?_cons]
        split
        · rfl
        · exact ih

theorem find?_modify (catalogue : Catalogue α) (name other : String) (change : α → α) :
    (catalogue.modify name change).find? other =
      if other = name then (catalogue.find? other).map change else catalogue.find? other := by
  by_cases same : other = name
  · rw [if_pos same, same]
    exact find?_modify_self catalogue name change
  · rw [if_neg same]
    exact find?_modify_other catalogue change same

theorem has_iff_mem_names (catalogue : Catalogue α) (name : String) :
    catalogue.has name = true ↔ name ∈ catalogue.names := by
  simp [has, find?, names]

theorem mem_names_iff (catalogue : Catalogue α) (name : String) :
    name ∈ catalogue.names ↔ ∃ value, catalogue.find? name = some value := by
  rw [← has_iff_mem_names, has, Option.isSome_iff_exists]

@[simp] theorem find?_empty (name : String) : (empty : Catalogue α).find? name = none := rfl

theorem mem_names_insert (catalogue : Catalogue α) (name other : String) (value : α) :
    other ∈ (catalogue.insert name value).names ↔ other = name ∨ other ∈ catalogue.names := by
  by_cases same : other = name
  · subst same
    simp [mem_names_iff, find?_insert_self]
  · simp [mem_names_iff, find?_insert_other catalogue value same, same]

theorem find?_of_before {entries : List (String × α)} {name : String}
    (before : ∀ entry ∈ entries, name < entry.1) :
    entries.find? (fun entry => entry.1 == name) = none := by
  rw [List.find?_eq_none]
  intro entry inside
  have less := before entry inside
  simpa using fun equal : entry.1 = name => String.lt_irrefl name (equal ▸ less)

theorem find?_eq_some_iff (catalogue : Catalogue α) {name : String} {value : α} :
    catalogue.find? name = some value ↔ (name, value) ∈ catalogue.entries := by
  obtain ⟨entries, ordered⟩ := catalogue
  unfold find?
  induction entries with
  | nil => simp
  | cons first rest ih =>
    obtain ⟨before, tailOrdered⟩ := List.pairwise_cons.1 ordered
    by_cases same : first.1 = name
    · -- The names behind are greater, so that none of them is this one.
      have absent : (name, value) ∉ rest := fun inside =>
        String.lt_irrefl name (same ▸ before (name, value) inside)
      simp [same, absent, Prod.ext_iff, eq_comm]
    · have other : (name, value) ≠ first := fun equal => same (equal ▸ rfl)
      rw [List.find?_cons_of_neg (by simpa using same), List.mem_cons, or_iff_right other]
      exact ih tailOrdered

theorem nodup_names (catalogue : Catalogue α) : catalogue.names.Nodup := by
  unfold names
  rw [List.nodup_iff_pairwise_ne, List.pairwise_map]
  apply catalogue.ordered.imp
  intro one other less same
  rw [same] at less
  exact String.lt_irrefl _ less

/-- Entries put into a catalogue one after another stand before those that were there. -/
theorem find?_foldl_insert {entries : List (String × α)}
    (ordered : entries.Pairwise fun a b => a.1 < b.1) (catalogue : Catalogue α) (name : String) :
    (entries.foldl (fun catalogue (name, value) => catalogue.insert name value) catalogue).find? name =
      ((entries.find? fun entry => entry.1 == name).map (·.2)).or (catalogue.find? name) := by
  induction entries generalizing catalogue with
  | nil => rfl
  | cons first rest ih =>
    obtain ⟨before, tailOrdered⟩ := List.pairwise_cons.1 ordered
    rw [List.foldl_cons, ih tailOrdered]
    by_cases same : first.1 = name
    · have absent : rest.find? (fun entry => entry.1 == name) = none :=
        find?_of_before fun entry later => same ▸ before entry later
      simp [absent, same, find?_insert_self]
    · rw [find?_insert_other catalogue first.2 (Ne.symm same), List.find?_cons_of_neg (by simpa using same)]

/-- Of two catalogues put together the later one counts. -/
theorem find?_ofList_append (earlier later : Catalogue α) (name : String) :
    (ofList (earlier.entries ++ later.entries)).find? name =
      (later.find? name).or (earlier.find? name) := by
  rw [ofList, List.foldl_append, find?_foldl_insert later.ordered, find?_foldl_insert earlier.ordered,
    find?_empty, Option.or_none]
  rfl

theorem entries_eq {entries others : List (String × α)}
    (ordered : entries.Pairwise fun a b => a.1 < b.1) (ordered' : others.Pairwise fun a b => a.1 < b.1)
    (same : ∀ name, (entries.find? fun entry => entry.1 == name).map (·.2) =
      (others.find? fun entry => entry.1 == name).map (·.2)) : entries = others := by
  induction entries generalizing others with
  | nil =>
    cases others with
    | nil => rfl
    | cons other rest => simpa using same other.1
  | cons first rest ih =>
    cases others with
    | nil => simpa using same first.1
    | cons other rest' =>
      obtain ⟨before, tailOrdered⟩ := List.pairwise_cons.1 ordered
      obtain ⟨before', tailOrdered'⟩ := List.pairwise_cons.1 ordered'
      -- If one list started with a smaller name, the other could not have an entry of that name.
      have names : first.1 = other.1 := by
        rcases Decidable.em (first.1 < other.1) with less | notLess
        · have absent : (other :: rest').find? (fun entry => entry.1 == first.1) = none := by
            apply find?_of_before
            intro entry inside
            rcases List.mem_cons.1 inside with rfl | later
            · exact less
            · exact String.lt_trans less (before' entry later)
          have here := same first.1
          rw [absent] at here
          simp at here
        · rcases Decidable.em (other.1 < first.1) with less | notLess'
          · have absent : (first :: rest).find? (fun entry => entry.1 == other.1) = none := by
              apply find?_of_before
              intro entry inside
              rcases List.mem_cons.1 inside with rfl | later
              · exact less
              · exact String.lt_trans less (before entry later)
            have there := same other.1
            rw [absent] at there
            simp at there
          · exact String.le_antisymm (String.not_lt.1 notLess') (String.not_lt.1 notLess)
      have values : first.2 = other.2 := by
        have here := same first.1
        simpa [names] using here
      have tails : rest = rest' := by
        apply ih tailOrdered tailOrdered'
        intro name
        by_cases equal : first.1 = name
        · rw [equal] at before
          rw [← names, equal] at before'
          rw [find?_of_before before, find?_of_before before']
        · have later := same name
          rw [List.find?_cons_of_neg (by simpa using equal),
            List.find?_cons_of_neg (by simpa [← names] using equal)] at later
          exact later
      rw [tails, Prod.ext names values]

/-- Catalogues are told apart by their answers. -/
theorem eq_of_find? {one other : Catalogue α} (same : ∀ name, one.find? name = other.find? name) :
    one = other := by
  have entries := entries_eq one.ordered other.ordered same
  cases one
  cases other
  simp_all

end Catalogue
end AccessControl
