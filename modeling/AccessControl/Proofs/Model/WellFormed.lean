import AccessControl.Proofs.Model.Keys
import AccessControl.Proofs.Text.Padding
import Mathlib.Data.List.Nodup
/-!
Well-formed models. What is read from a text is well formed: fields are identifiers and no list of them
is empty or has one twice, types have keys of their kind, and the two expressions are lines without outer
blanks. The definitions here know nothing of a reader; that it keeps to them is shown line by line.
-/
namespace AccessControl

namespace Model
open Text

/-- A letter or an underscore, and letters, digits and underscores after it. -/
def IsIdentifier (name : String) : Prop :=
  ∃ c rest, name.toList = c :: rest ∧ (c.isAlpha = true ∨ c = '_') ∧
    ∀ d ∈ rest, d.isAlphanum = true ∨ d = '_'

/-- At least one identifier, and none twice. -/
structure IsFieldList (names : List String) : Prop where
  some : names ≠ []
  distinct : names.Nodup
  identifiers : ∀ name ∈ names, IsIdentifier name

/-- A letter, alone or with a number after it that does not start with zero and is not one. -/
def IsKey (letter : Char) (key : String) : Prop :=
  key.toList = [letter] ∨ ∃ digits, key.toList = letter :: digits ∧ digits ≠ [] ∧
    (∀ c ∈ digits, c.isDigit = true) ∧ digits.head? ≠ some '0' ∧ digits ≠ ['1']

/-- A line that is not blank, without outer blanks. -/
structure IsExpression (text : String) : Prop where
  some : text ≠ ""
  unbroken : '\n' ∉ text.toList
  trimmed : Trimmed text.toList

/-- What every model that is read from a text owes to its later use. -/
structure WellFormed (model : Model) : Prop where
  request : IsFieldList model.request
  declared : model.policies.names ≠ []
  policies : ∀ type names, model.policies.find? type = some names → IsKey 'p' type ∧ IsFieldList names
  roles : ∀ type shape, model.roles.find? type = some shape →
    IsKey 'g' type ∧ (shape.arity = 2 ∨ shape.arity = 3)
  effect : IsExpression model.effect
  matcher : IsExpression model.matcher

theorem isFieldName_iff {name : String} : isFieldName name.toList = true ↔ IsIdentifier name := by
  unfold isFieldName IsIdentifier
  cases name.toList with
  | nil => simp
  | cons c rest =>
    constructor
    · intro holds
      exact ⟨c, rest, rfl, by simpa using holds⟩
    · rintro ⟨_, _, same, holds⟩
      cases same
      simpa using holds

theorem isNumbering_iff {digits : List Char} : Part.isNumbering digits = true ↔
    digits = [] ∨ digits ≠ [] ∧ (∀ c ∈ digits, c.isDigit = true) ∧ digits.head? ≠ some '0' ∧
      digits ≠ ['1'] := by
  unfold Part.isNumbering
  cases digits with
  | nil => simp
  | cons c rest => simp [and_assoc]

theorem isKey_iff {letter : Char} {key : String} : IsKey letter key ↔
    ∃ digits, key.toList = letter :: digits ∧ Part.isNumbering digits = true := by
  unfold IsKey
  constructor
  · rintro (alone | ⟨digits, spelled, numbered⟩)
    · exact ⟨[], alone, rfl⟩
    · exact ⟨digits, spelled, isNumbering_iff.2 (.inr numbered)⟩
  · rintro ⟨digits, spelled, numbered⟩
    rcases isNumbering_iff.1 numbered with rfl | some
    · exact .inl spelled
    · exact .inr ⟨digits, spelled, some⟩

theorem ofKey?_policy_iff {key : String} :
    Part.ofKey? key.toList = some .policy ↔ IsKey 'p' key := by
  rw [isKey_iff]
  unfold Part.ofKey?
  split <;> simp_all

theorem ofKey?_role_iff {key : String} : Part.ofKey? key.toList = some .role ↔ IsKey 'g' key := by
  rw [isKey_iff]
  unfold Part.ofKey?
  split <;> simp_all

/-- Fields are read if they are identifiers and none of them comes twice. -/
theorem readFields_eq_ok {key : String} {fields names read : List String} (distinct : fields.Nodup) :
    readFields key fields names = .ok read ↔
      read = fields ++ names ∧ read.Nodup ∧ ∀ name ∈ names, IsIdentifier name := by
  induction names generalizing fields with
  | nil =>
    rw [readFields, List.append_nil]
    constructor
    · intro done
      cases done
      exact ⟨rfl, distinct, by simp⟩
    · rintro ⟨rfl, -⟩
      rfl
  | cons name rest ih =>
    unfold readFields
    by_cases named : isFieldName name.toList = true
    · by_cases repeated : name ∈ fields
      · simp only [named, Bool.not_true, Bool.false_eq_true, if_false, if_pos repeated]
        refine iff_of_false nofun ?_
        rintro ⟨rfl, fresh, -⟩
        exact (List.nodup_append.1 fresh).2.2 name repeated name List.mem_cons_self rfl
      · have longer : (fields ++ [name]).Nodup := by
          have apart : fields.Disjoint [name] := by simpa using repeated
          exact distinct.append (List.nodup_singleton name) apart
        simp only [named, Bool.not_true, Bool.false_eq_true, if_false, if_neg repeated, ih longer,
          List.append_assoc, List.singleton_append, List.forall_mem_cons, isFieldName_iff.1 named,
          true_and]
    · simp only [Bool.not_eq_true] at named
      simp only [named, Bool.not_false, if_true]
      refine iff_of_false nofun ?_
      rintro ⟨-, -, all⟩
      have identifier := isFieldName_iff.2 (all name List.mem_cons_self)
      rw [named] at identifier
      cases identifier

theorem isFieldList_of_readFields {key : String} {value : List Char} {read : List String}
    (done : readFields key [] (items value) = .ok read) : IsFieldList read := by
  obtain ⟨rfl, distinct, identifiers⟩ := (readFields_eq_ok List.nodup_nil).1 done
  exact ⟨items_ne_nil value, distinct, identifiers⟩

theorem isExpression_ofList {value : List Char} (some : value ≠ []) (unbroken : '\n' ∉ value)
    (trimmed : Trimmed value) : IsExpression (String.ofList value) := by
  refine ⟨?_, by rwa [String.toList_ofList], by rwa [String.toList_ofList]⟩
  intro none
  apply some
  rw [← String.toList_ofList (l := value), none]
  rfl

namespace Draft

/-- What has been read so far is well formed. -/
structure WellFormed (draft : Draft) : Prop where
  request : ∀ names, draft.request? = some names → IsFieldList names
  policies : ∀ type names, draft.policies.find? type = some names → IsKey 'p' type ∧ IsFieldList names
  roles : ∀ type shape, draft.roles.find? type = some shape → IsKey 'g' type
  effect : ∀ text, draft.effect? = some text → IsExpression text
  matcher : ∀ text, draft.matcher? = some text → IsExpression text

variable {draft after : Draft}

/-- An entry with a key of its kind and a value that is an expression keeps a draft well formed. -/
theorem WellFormed.enter (formed : draft.WellFormed) {part : Part} {key value : String}
    (kind : Part.ofKey? key.toList = some part) (solid : IsExpression value)
    (done : draft.enter part key value = .ok after) : after.WellFormed := by
  cases part with
  | request =>
    obtain ⟨fields, read, same⟩ := Result.bind_eq_ok.1 done
    cases same
    refine { formed with request := ?_ }
    rintro _ ⟨⟩
    exact isFieldList_of_readFields read
  | policy =>
    obtain ⟨fields, read, same⟩ := Result.bind_eq_ok.1 done
    cases same
    refine { formed with policies := ?_ }
    intro type names found
    by_cases here : type = key
    · subst here
      rw [Catalogue.find?_insert_self] at found
      cases found
      exact ⟨ofKey?_policy_iff.1 kind, isFieldList_of_readFields read⟩
    · rw [Catalogue.find?_insert_other _ _ here] at found
      exact formed.policies type names found
  | role =>
    obtain ⟨shape, read, same⟩ := Result.bind_eq_ok.1 done
    cases same
    refine { formed with roles := ?_ }
    intro type shape found
    by_cases here : type = key
    · exact here ▸ ofKey?_role_iff.1 kind
    · rw [Catalogue.find?_insert_other _ _ here] at found
      exact formed.roles type shape found
  | effect =>
    cases done
    refine { formed with effect := ?_ }
    rintro _ ⟨⟩
    exact solid
  | matcher =>
    cases done
    refine { formed with matcher := ?_ }
    rintro _ ⟨⟩
    exact solid

theorem WellFormed.readLine (formed : draft.WellFormed) {line : List Char} (unbroken : '\n' ∉ line)
    (done : draft.readLine line = .ok after) : after.WellFormed := by
  rcases readLine_cases done with ⟨header, part, -, -, -, rfl⟩ | ⟨key, value, parted, defined⟩
  · exact { formed with }
  · obtain ⟨part, kind, -, -, some, entered⟩ := define_cases defined
    have noted : WellFormed { draft with keys := String.ofList (trim key) :: draft.keys } :=
      { formed with }
    obtain ⟨rfl, -⟩ := eq_of_cut? parted
    have inside : '\n' ∉ trim value := by
      intro found
      have later := List.mem_cons_of_mem '=' ((trim_sublist value).subset found)
      exact unbroken (List.mem_append_right key later)
    refine noted.enter ?_ (isExpression_ofList some inside (trimmed_trim value)) entered
    rw [String.toList_ofList]
    exact kind

theorem WellFormed.readLines {lines : List Pending} (formed : draft.WellFormed)
    (unbroken : ∀ line ∈ lines, '\n' ∉ line.text) (done : draft.readLines lines = .ok after) :
    after.WellFormed :=
  readLines_preserves (fun line inside _ _ before read => before.readLine (unbroken line inside) read)
    formed done

theorem WellFormed.complete (formed : draft.WellFormed) {model : Model}
    (done : draft.complete = .ok model) : model.WellFormed := by
  have gives := complete_eq_ok.1 done
  refine ⟨formed.request _ gives.request, ?_, gives.policies ▸ formed.policies, ?_,
    formed.effect _ gives.effect, formed.matcher _ gives.matcher⟩
  · simpa [Catalogue.names, gives.policies] using gives.declared
  · intro type shape found
    refine ⟨formed.roles type shape (gives.roles ▸ found), ?_⟩
    cases shape with
    | global => exact .inl rfl
    | perDomain => exact .inr rfl

end Draft

/-- Lines without line feeds are joined without line feeds. -/
theorem unbroken_of_mem_logicalLines {numbered : List (Nat × List Char)} {pending? : Option Pending}
    (unbroken : ∀ line ∈ numbered, '\n' ∉ line.2)
    (before : ∀ pending, pending? = some pending → '\n' ∉ pending.text) {line : Pending}
    (inside : line ∈ logicalLines numbered pending?) : '\n' ∉ line.text := by
  have joined {pending : Pending} {text : List Char} (first : '\n' ∉ pending.text)
      (second : '\n' ∉ text) : '\n' ∉ (pending.join text).text := by
    unfold Pending.join
    split
    · exact second
    · simp [first, second]
  induction numbered generalizing pending? with
  | nil =>
    cases pending? with
    | none => cases inside
    | some pending =>
      rw [logicalLines, List.mem_singleton] at inside
      exact inside ▸ before pending rfl
  | cons first rest ih =>
    obtain ⟨number, raw⟩ := first
    rw [List.forall_mem_cons] at unbroken
    have part {text : List Char} (within : text.Sublist raw) : '\n' ∉ text :=
      fun found => unbroken.1 (within.subset found)
    have start : '\n' ∉ (pending?.getD ⟨number, []⟩).text := by
      cases pending? with
      | none => exact List.not_mem_nil
      | some pending => exact before pending rfl
    rw [logicalLines] at inside
    simp only at inside
    split at inside
    · exact ih unbroken.2 (by simp) inside
    · split at inside
      · refine ih unbroken.2 ?_ inside
        rintro _ ⟨⟩
        apply joined start
        exact part ((trimEnd_sublist _).trans ((List.dropLast_sublist _).trans (trim_sublist raw)))
      · rcases List.mem_cons.1 inside with rfl | later
        · exact joined start (part (trim_sublist raw))
        · exact ih unbroken.2 (by simp) later

/-- A model that is read from a text is well formed. -/
theorem wellFormed_ofText {text : String} {model : Model} (read : ofText text = .ok model) :
    model.WellFormed := by
  obtain ⟨draft, lines, whole⟩ := Result.bind_eq_ok.1 read
  have start : Draft.WellFormed {} := ⟨nofun, nofun, nofun, nofun, nofun⟩
  have unbroken : ∀ line ∈ numberedLines text.toList, '\n' ∉ line.2 :=
    fun line found => not_mem_of_mem_lines (mem_lines_of_mem_numberedLines found)
  refine (start.readLines ?_ lines).complete whole
  intro line inside
  exact unbroken_of_mem_logicalLines unbroken (by simp) inside

end Model
end AccessControl
