import AccessControl.Model
import AccessControl.Proofs.Result
import AccessControl.Rule
/-!
The keys of a model that was read from a text: every policy type has the key of a policy definition
and every role type that of a role definition, so that no type is both, and the first letter of a
type tells which of the two it is. No policy definition is without fields.
-/
namespace AccessControl

namespace Model

/-- Every type has a key of its kind, and every policy type has fields. -/
structure Keyed (model : Model) : Prop where
  policy : ∀ type ∈ model.policies.names, Part.ofKey? type.toList = some .policy
  role : ∀ type ∈ model.roles.names, Part.ofKey? type.toList = some .role
  fielded : ∀ type names, model.policies.find? type = some names → names ≠ []

namespace Part
variable {part : Part} {key : List Char}

/-- The letter that the keys of a kind start with. -/
def letter : Part → Char
  | request => 'r'
  | policy => 'p'
  | role => 'g'
  | effect => 'e'
  | matcher => 'm'

/-- A key is the letter of its kind, and only a type has digits behind it. -/
theorem exists_digits (kind : ofKey? key = some part) : ∃ digits, key = part.letter :: digits ∧
    (∀ c ∈ digits, c.isDigit = true) ∧ (digits = [] ∨ part = .policy ∨ part = .role) := by
  have numbered {digits : List Char} (numbering : isNumbering digits = true) :
      ∀ c ∈ digits, c.isDigit = true := by
    unfold isNumbering at numbering
    rw [Bool.and_eq_true, Bool.and_eq_true] at numbering
    exact List.all_eq_true.1 numbering.1.1
  unfold ofKey? at kind
  split at kind
  · cases kind
    exact ⟨[], rfl, nofun, .inl rfl⟩
  · cases kind
    exact ⟨[], rfl, nofun, .inl rfl⟩
  · cases kind
    exact ⟨[], rfl, nofun, .inl rfl⟩
  next digits =>
    obtain ⟨numbering, rfl⟩ : isNumbering digits = true ∧ policy = part := by simpa using kind
    exact ⟨digits, rfl, numbered numbering, .inr (.inl rfl)⟩
  next digits =>
    obtain ⟨numbering, rfl⟩ : isNumbering digits = true ∧ role = part := by simpa using kind
    exact ⟨digits, rfl, numbered numbering, .inr (.inr rfl)⟩
  · cases kind

/-- The request, the effect and the matcher have one key each. -/
theorem eq_letter (kind : ofKey? key = some part) (noPolicy : part ≠ .policy) (noRole : part ≠ .role) :
    key = [part.letter] := by
  obtain ⟨digits, rfl, -, rfl | policy | role⟩ := exists_digits kind
  · rfl
  · exact absurd policy noPolicy
  · exact absurd role noRole

/-- Keys are of letters and digits. -/
theorem isAlphanum_of_ofKey? (kind : ofKey? key = some part) : ∀ c ∈ key, c.isAlphanum = true := by
  obtain ⟨digits, rfl, numbered, -⟩ := exists_digits kind
  intro c inside
  rcases List.mem_cons.1 inside with rfl | later
  · cases part <;> decide
  · rw [Char.isAlphanum, numbered c later, Bool.or_true]

end Part

theorem isGroupingType_of_role {type : String} (key : Part.ofKey? type.toList = some .role) :
    isGroupingType type = true := by
  obtain ⟨digits, spelled, -⟩ := Part.exists_digits key
  rw [isGroupingType, spelled]
  rfl

namespace Keyed
variable {model : Model} (keyed : model.Keyed)
include keyed

theorem isGroupingType {type : String} (declared : type ∈ model.roles.names) :
    isGroupingType type = true := isGroupingType_of_role (keyed.role type declared)

/-- No policy type has the name of requests. -/
theorem not_has_request : model.policies.has "r" = false := by
  rw [Bool.eq_false_iff, ne_eq, Catalogue.has_iff_mem_names]
  intro listed
  exact absurd (keyed.policy "r" listed) (by decide)

theorem ne_request {type : String} {names : List String}
    (declared : model.policies.find? type = some names) : type ≠ "r" := by
  rintro rfl
  have absent := keyed.not_has_request
  rw [Catalogue.has, declared] at absent
  cases absent

theorem find?_roles_of_policy {type : String} (declared : type ∈ model.policies.names) :
    model.roles.find? type = none := by
  rw [Option.eq_none_iff_forall_not_mem]
  intro shape found
  have listed : type ∈ model.roles.names := (Catalogue.mem_names_iff _ _).2 ⟨shape, found⟩
  have policy := keyed.policy type declared
  rw [keyed.role type listed] at policy
  exact Part.noConfusion (Option.some.inj policy)

end Keyed

theorem length_readFields {key : String} {fields names read : List String}
    (done : readFields key fields names = .ok read) : read.length = fields.length + names.length := by
  induction names generalizing fields with
  | nil =>
    cases done
    rfl
  | cons name rest ih =>
    unfold readFields at done
    split at done
    · cases done
    · split at done
      · cases done
      · rw [ih done, List.length_append, List.length_singleton, List.length_cons]
        omega

theorem items_ne_nil (value : List Char) : items value ≠ [] := by
  unfold items
  rw [ne_eq, List.map_eq_nil_iff]
  exact List.splitOn_ne_nil ',' value

namespace Draft

/-- A line that is read is the header of a kind, or what stands in it before and after an equals sign is
defined. -/
theorem readLine_cases {draft after : Draft} {line : List Char} (done : draft.readLine line = .ok after) :
    (∃ header part, line = '[' :: header ∧ header.getLast? = some ']' ∧
      Part.ofHeader? (String.ofList (Text.trim header.dropLast)) = some part ∧
      after = { draft with header? := some part }) ∨
    ∃ key value, Text.cut? '=' line = some (key, value) ∧
      draft.define (Text.trim key) (Text.trim value) = .ok after := by
  unfold readLine at done
  split at done
  next header =>
    split at done
    next last =>
      simp only at done
      split at done
      next part known =>
        cases done
        exact .inl ⟨header, part, rfl, last, known, rfl⟩
      next => cases done
    next => cases done
  next =>
    split at done
    next => cases done
    next key value parted => exact .inr ⟨key, value, parted, done⟩

/-- A definition is entered if its key is known, stands under a header of its kind and is new, and if it
defines something. The key is noted before that. -/
theorem define_cases {draft after : Draft} {key value : List Char}
    (done : draft.define key value = .ok after) : ∃ part, Part.ofKey? key = some part ∧
      draft.header?.any (· != part) = false ∧ String.ofList key ∉ draft.keys ∧ value ≠ [] ∧
      enter { draft with keys := String.ofList key :: draft.keys } part (String.ofList key)
        (String.ofList value) = .ok after := by
  unfold define at done
  cases kind : Part.ofKey? key with
  | none => simp [kind] at done
  | some part =>
    simp only [kind] at done
    split at done
    · cases done
    next fits =>
      split at done
      · cases done
      next isNew =>
        split at done
        · cases done
        next some => exact ⟨part, rfl, by simpa using fits, isNew, by simpa using some, done⟩

/-- A definition that is entered leaves alone what definitions of other kinds have given. -/
theorem enter_frame {draft after : Draft} {part : Part} {key value : String}
    (done : draft.enter part key value = .ok after) : after.keys = draft.keys ∧
      (part ≠ .request → after.request? = draft.request?) ∧
      (part ≠ .effect → after.effect? = draft.effect?) ∧
      (part ≠ .matcher → after.matcher? = draft.matcher?) := by
  cases part with
  | request =>
    obtain ⟨_, -, same⟩ := Result.bind_eq_ok.1 done
    cases same
    exact ⟨rfl, fun other => absurd rfl other, fun _ => rfl, fun _ => rfl⟩
  | policy =>
    obtain ⟨_, -, same⟩ := Result.bind_eq_ok.1 done
    cases same
    exact ⟨rfl, fun _ => rfl, fun _ => rfl, fun _ => rfl⟩
  | role =>
    obtain ⟨_, -, same⟩ := Result.bind_eq_ok.1 done
    cases same
    exact ⟨rfl, fun _ => rfl, fun _ => rfl, fun _ => rfl⟩
  | effect =>
    cases done
    exact ⟨rfl, fun _ => rfl, fun other => absurd rfl other, fun _ => rfl⟩
  | matcher =>
    cases done
    exact ⟨rfl, fun _ => rfl, fun _ => rfl, fun other => absurd rfl other⟩

/-- What each line that is read preserves is preserved by all of them. -/
theorem readLines_preserves {holds : Draft → Prop} {lines : List Pending}
    (kept : ∀ line ∈ lines, ∀ draft after : Draft, holds draft → draft.readLine line.text = .ok after →
      holds after)
    {draft after : Draft} (start : holds draft) (done : draft.readLines lines = .ok after) : holds after := by
  induction lines generalizing draft with
  | nil =>
    cases done
    exact start
  | cons line rest ih =>
    rw [List.forall_mem_cons] at kept
    unfold readLines at done
    split at done
    · cases done
    next middle read => exact ih kept.2 (kept.1 draft middle start read) done

/-- What it means that a draft has all parts of a model. -/
structure Gives (draft : Draft) (model : Model) : Prop where
  request : draft.request? = some model.request
  declared : draft.policies.entries ≠ []
  policies : draft.policies = model.policies
  roles : draft.roles = model.roles
  effect : draft.effect? = some model.effect
  matcher : draft.matcher? = some model.matcher

theorem complete_eq_ok {draft : Draft} {model : Model} :
    draft.complete = .ok model ↔ draft.Gives model := by
  constructor
  · intro done
    unfold complete at done
    split at done
    next => cases done
    next request given =>
      split at done
      next => cases done
      next some =>
        split at done
        next => cases done
        next => cases done
        next effect matcher stated tested =>
          cases done
          exact ⟨given, by simpa using some, rfl, rfl, stated, tested⟩
  · intro gives
    have some : model.policies.entries.isEmpty = false := by simpa [gives.policies] using gives.declared
    unfold complete
    simp only [gives.request, some, Bool.false_eq_true, if_false, gives.effect, gives.matcher,
      gives.policies, gives.roles]

/-- Every type that has been read so far has a key of its kind, and every policy type has fields. -/
structure Keyed (draft : Draft) : Prop where
  policy : ∀ type ∈ draft.policies.names, Part.ofKey? type.toList = some .policy
  role : ∀ type ∈ draft.roles.names, Part.ofKey? type.toList = some .role
  fielded : ∀ type names, draft.policies.find? type = some names → names ≠ []

theorem keyed_enter {draft after : Draft} (keyed : draft.Keyed) {part : Part} {key : List Char}
    (kind : Part.ofKey? key = some part) {value : String}
    (done : draft.enter part (String.ofList key) value = .ok after) : after.Keyed := by
  have named : (String.ofList key).toList = key := String.toList_ofList
  cases part with
  | request =>
    obtain ⟨_, _, same⟩ := Result.bind_eq_ok.1 done
    cases same
    exact ⟨keyed.policy, keyed.role, keyed.fielded⟩
  | policy =>
    obtain ⟨fields, read, same⟩ := Result.bind_eq_ok.1 done
    cases same
    refine ⟨?_, keyed.role, ?_⟩
    · intro type listed
      rcases (Catalogue.mem_names_insert _ _ _ _).1 listed with rfl | old
      · rw [named, kind]
      · exact keyed.policy type old
    · intro type names found
      by_cases same : type = String.ofList key
      · rw [same, Catalogue.find?_insert_self] at found
        cases found
        have some : 0 < (items value.toList).length := List.length_pos_iff.2 (items_ne_nil _)
        have length := length_readFields read
        apply List.ne_nil_of_length_pos
        omega
      · rw [Catalogue.find?_insert_other _ _ same] at found
        exact keyed.fielded type names found
  | role =>
    obtain ⟨_, _, same⟩ := Result.bind_eq_ok.1 done
    cases same
    refine ⟨keyed.policy, ?_, keyed.fielded⟩
    intro type listed
    rcases (Catalogue.mem_names_insert _ _ _ _).1 listed with rfl | old
    · rw [named, kind]
    · exact keyed.role type old
  | effect =>
    cases done
    exact ⟨keyed.policy, keyed.role, keyed.fielded⟩
  | matcher =>
    cases done
    exact ⟨keyed.policy, keyed.role, keyed.fielded⟩

theorem keyed_readLine {draft after : Draft} (keyed : draft.Keyed) {line : List Char}
    (done : draft.readLine line = .ok after) : after.Keyed := by
  rcases readLine_cases done with ⟨header, part, -, -, -, rfl⟩ | ⟨key, value, -, defined⟩
  · exact ⟨keyed.policy, keyed.role, keyed.fielded⟩
  · obtain ⟨part, kind, -, -, -, entered⟩ := define_cases defined
    have noted : Draft.Keyed { draft with keys := String.ofList (Text.trim key) :: draft.keys } :=
      ⟨keyed.policy, keyed.role, keyed.fielded⟩
    exact keyed_enter noted kind entered

theorem keyed_readLines {lines : List Pending} {draft after : Draft} (keyed : draft.Keyed)
    (done : draft.readLines lines = .ok after) : after.Keyed :=
  readLines_preserves (fun _ _ _ _ before read => keyed_readLine before read) keyed done

theorem keyed_complete {draft : Draft} (keyed : draft.Keyed) {model : Model}
    (done : draft.complete = .ok model) : model.Keyed := by
  have gives := complete_eq_ok.1 done
  exact ⟨gives.policies ▸ keyed.policy, gives.roles ▸ keyed.role, gives.policies ▸ keyed.fielded⟩

end Draft

/-- A model that was read from a text has keys of the right kinds. -/
theorem keyed_ofText {text : String} {model : Model} (read : ofText text = .ok model) :
    model.Keyed := by
  obtain ⟨draft, lines, whole⟩ := Result.bind_eq_ok.1 read
  have start : Draft.Keyed {} := ⟨by simp [Catalogue.names, Catalogue.empty],
    by simp [Catalogue.names, Catalogue.empty], by simp⟩
  exact Draft.keyed_complete (Draft.keyed_readLines start lines) whole

end Model
end AccessControl
