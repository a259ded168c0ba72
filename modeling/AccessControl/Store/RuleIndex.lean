/-!
Indexes of rules. An index tells which rules are present without looking through all of them: the
rules are parted by the number of their characters, and a rule is only ever compared with those of
its own part.
-/
namespace AccessControl

def ruleParts : Nat := 64

/-- The present rules, each in the part that it belongs to. -/
structure RuleIndex where
  parts : Vector (List (List String)) ruleParts := .replicate ruleParts []
deriving Inhabited

namespace RuleIndex

/-- The index without rules. -/
def empty : RuleIndex := {}

/-- The part that a rule belongs to. -/
def partOf (fields : List String) : Fin ruleParts :=
  ⟨fields.foldl (fun length field => length + field.length) 0 % ruleParts, Nat.mod_lt _ (by decide)⟩

def has (index : RuleIndex) (fields : List String) : Bool :=
  index.parts[partOf fields].contains fields

def withPart (index : RuleIndex) (fields : List String)
    (change : List (List String) → List (List String)) : RuleIndex :=
  ⟨index.parts.set (partOf fields) (change index.parts[partOf fields])⟩

def insert (index : RuleIndex) (fields : List String) : RuleIndex :=
  index.withPart fields (fields :: ·)

def erase (index : RuleIndex) (fields : List String) : RuleIndex :=
  index.withPart fields (·.filter (· != fields))

@[simp] theorem has_empty (fields : List String) : empty.has fields = false := by
  simp [empty, has]

theorem part_withPart (index : RuleIndex) (fields other : List String)
    (change : List (List String) → List (List String)) :
    (index.withPart fields change).parts[partOf other] =
      if partOf fields = partOf other then change index.parts[partOf other]
      else index.parts[partOf other] := by
  simp only [withPart, Fin.getElem_fin, Vector.getElem_set]
  by_cases same : partOf fields = partOf other
  · simp [same]
  · rw [if_neg (fun equal => same (Fin.ext equal)), if_neg same]

@[simp] theorem has_insert (index : RuleIndex) (fields other : List String) :
    (index.insert fields).has other = (other == fields || index.has other) := by
  unfold has insert
  rw [part_withPart]
  by_cases same : partOf fields = partOf other
  · rw [if_pos same, List.contains_cons]
  · have distinct : other ≠ fields := fun equal => same (equal ▸ rfl)
    simp [same, distinct]

@[simp] theorem has_erase (index : RuleIndex) (fields other : List String) :
    (index.erase fields).has other = (other != fields && index.has other) := by
  unfold has erase
  rw [part_withPart]
  by_cases same : partOf fields = partOf other
  · rw [if_pos same, Bool.eq_iff_iff]
    simp [and_comm]
  · have distinct : other ≠ fields := fun equal => same (equal ▸ rfl)
    simp [same, distinct]

end RuleIndex
end AccessControl
