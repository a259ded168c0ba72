import Mathlib.Data.List.Forall2
/-!
Results of steps that may fail, and what a result says about the steps that led to it.
-/
namespace AccessControl.Result
variable {α β ε δ : Type}

/-- Two steps end well just when the first ends well and the second does so from its result. -/
theorem bind_eq_ok {first : Except ε α} {next : α → Except ε β} {result : β} :
    first >>= next = .ok result ↔ ∃ value, first = .ok value ∧ next value = .ok result := by
  cases first with
  | error fault => simp [bind, Except.bind]
  | ok value => simp [bind, Except.bind]

/-- Two steps fail when the first does, or when the second does so from the result of the first. -/
theorem bind_eq_error {first : Except ε α} {next : α → Except ε β} {fault : ε} :
    first >>= next = .error fault ↔
      first = .error fault ∨ ∃ value, first = .ok value ∧ next value = .error fault := by
  cases first with
  | error fault => simp [bind, Except.bind]
  | ok value => simp [bind, Except.bind]

theorem map_eq_ok {step : Except ε α} {change : α → β} {result : β} :
    step.map change = .ok result ↔ ∃ value, step = .ok value ∧ change value = result := by
  cases step with
  | error fault => simp [Except.map]
  | ok value => simp [Except.map]

theorem map_eq_error {step : Except ε α} {change : α → β} {fault : ε} :
    step.map change = .error fault ↔ step = .error fault := by
  cases step with
  | error fault => simp [Except.map]
  | ok value => simp [Except.map]

theorem mapError_eq_ok {step : Except ε α} {change : ε → δ} {result : α} :
    step.mapError change = .ok result ↔ step = .ok result := by
  cases step with
  | error fault => exact iff_of_false nofun nofun
  | ok value =>
    constructor
    · intro same
      cases same
      rfl
    · intro same
      cases same
      rfl

theorem mapError_eq_error {step : Except ε α} {change : ε → δ} {fault : δ} :
    step.mapError change = .error fault ↔ ∃ cause, step = .error cause ∧ change cause = fault := by
  cases step with
  | error cause =>
    constructor
    · intro same
      cases same
      exact ⟨cause, rfl, rfl⟩
    · rintro ⟨_, same, rfl⟩
      cases same
      rfl
  | ok value => exact iff_of_false nofun nofun

theorem map_bind {first : Except ε α} {next : α → Except ε β} {γ : Type} {change : β → γ} :
    (first >>= next).map change = first >>= fun value => (next value).map change := by
  cases first <;> rfl

theorem map_map {step : Except ε α} {change : α → β} {γ : Type} {change' : β → γ} :
    (step.map change).map change' = step.map (change' ∘ change) := by
  cases step <;> rfl

theorem map_mapError {step : Except ε α} {change : ε → δ} {change' : α → β} :
    (step.mapError change).map change' = (step.map change').mapError change := by
  cases step <;> rfl

/-- What a list of steps has led to comes from one of the steps. -/
theorem exists_of_forall₂ {relation : α → β → Prop} {as : List α} {bs : List β}
    (all : List.Forall₂ relation as bs) {b : β} (inside : b ∈ bs) : ∃ a ∈ as, relation a b := by
  induction all with
  | nil => cases inside
  | cons first rest ih =>
    rcases List.mem_cons.1 inside with rfl | later
    · exact ⟨_, List.mem_cons_self, first⟩
    · obtain ⟨a, found, related⟩ := ih later
      exact ⟨a, List.mem_cons_of_mem _ found, related⟩

end AccessControl.Result
