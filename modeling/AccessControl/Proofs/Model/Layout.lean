import AccessControl.Proofs.Model.WellFormed
/-!
Layouts of models. A model can be written down in many ways: its definitions in any order, under headers
or without them, with blanks wherever they do not part a word, and with blank lines and comments between
definitions. Whatever the layout is, the text is read as the model.
-/
namespace AccessControl

namespace Model
open Text

/-- A definition of a model. -/
inductive Entry where
  | request (fields : List String)
  | policy (type : String) (fields : List String)
  | role (type : String) (shape : RoleShape)
  | effect (text : String)
  | matcher (text : String)

/-- The definitions of a model. -/
def entries (model : Model) : List Entry :=
  .request model.request :: .effect model.effect :: .matcher model.matcher ::
    (model.policies.entries.map (fun (type, fields) => .policy type fields) ++
      model.roles.entries.map fun (type, shape) => .role type shape)

namespace Entry

def key : Entry → String
  | request _ => "r"
  | policy type _ | role type _ => type
  | effect _ => "e"
  | matcher _ => "m"

def part : Entry → Part
  | request _ => .request
  | policy _ _ => .policy
  | role _ _ => .role
  | effect _ => .effect
  | matcher _ => .matcher

/-- What may stand behind the equals sign of a definition. -/
def ValueSpelled : Entry → List Char → Prop
  | request fields | policy _ fields => Listed fields
  | role _ shape => Listed (List.replicate shape.arity "_")
  | effect text | matcher text => Padded text.toList

/-- A line that a definition may be written on. -/
def Spelled (entry : Entry) (line : List Char) : Prop :=
  ∃ key value, Padded entry.key.toList key ∧ entry.ValueSpelled value ∧ line = key ++ '=' :: value

end Entry

/-- The name of the section for a kind of definitions. -/
def Part.title : Part → String
  | request => "request_definition"
  | policy => "policy_definition"
  | role => "role_definition"
  | effect => "policy_effect"
  | matcher => "matchers"

/-- Definitions on lines of their own, with blank lines and comments between them. Below a header there
are only definitions of its kind, up to the next header. -/
inductive Laid : Option Part → List Entry → List (List Char) → Prop
  | nil (header? : Option Part) : Laid header? [] []
  | blank {header? : Option Part} {entries : List Entry} {line : List Char} {lines : List (List Char)}
      (blank : ∀ c ∈ line, isSpace c = true) (rest : Laid header? entries lines) :
      Laid header? entries (line :: lines)
  | comment {header? : Option Part} {entries : List Entry} {front text : List Char}
      {lines : List (List Char)} (blank : ∀ c ∈ front, isSpace c = true)
      (rest : Laid header? entries lines) : Laid header? entries ((front ++ '#' :: text) :: lines)
  | header {header? : Option Part} {part : Part} {entries : List Entry} {title line : List Char}
      {lines : List (List Char)} (titled : Padded part.title.toList title)
      (padded : Padded ('[' :: (title ++ [']'])) line) (rest : Laid (some part) entries lines) :
      Laid header? entries (line :: lines)
  | entry {header? : Option Part} {entry : Entry} {entries : List Entry} {line : List Char}
      {lines : List (List Char)} (below : ∀ part, header? = some part → part = entry.part)
      (spelled : entry.Spelled line) (rest : Laid header? entries lines) :
      Laid header? (entry :: entries) (line :: lines)

/-- A definition of a well-formed model whose value does not go on over the end of a line. -/
def Entry.Proper : Entry → Prop
  | request fields => IsFieldList fields
  | policy type fields => IsKey 'p' type ∧ IsFieldList fields
  | role type _ => IsKey 'g' type
  | effect text | matcher text => IsExpression text ∧ text.toList.getLast? ≠ some '\\'

theorem isItem_of_isIdentifier {name : String} (identifier : IsIdentifier name) : IsItem name ∧
    name.toList.getLast? ≠ some '\\' := by
  obtain ⟨c, rest, spelled, first, later⟩ := identifier
  have inner : ∀ d ∈ name.toList, isSpace d = false ∧ d ≠ ',' ∧ d ≠ '\\' := by
    intro d inside
    have word : d.isAlphanum = true ∨ d = '_' := by
      rw [spelled] at inside
      rcases List.mem_cons.1 inside with rfl | within
      · exact first.imp (fun letter => by simp [Char.isAlphanum, letter]) id
      · exact later d within
    rcases word with letter | rfl
    · refine ⟨isSpace_alphanum letter, ?_, ?_⟩
      · rintro rfl
        cases letter
      · rintro rfl
        cases letter
    · decide
  refine ⟨⟨by simp [spelled], fun d inside => (inner d inside).1, fun inside => (inner _ inside).2.1 rfl⟩, ?_⟩
  intro last
  exact (inner _ (List.mem_of_getLast? last)).2.2 rfl

theorem isIdentifier_placeholder : IsIdentifier "_" := ⟨'_', [], rfl, .inr rfl, nofun⟩

namespace Entry
variable {entry : Entry} (proper : entry.Proper)
include proper

theorem Proper.ofKey? : Part.ofKey? entry.key.toList = some entry.part := by
  cases entry with
  | request fields =>
    show Part.ofKey? "r".toList = some .request
    decide
  | policy type fields => exact ofKey?_policy_iff.2 proper.1
  | role type shape => exact ofKey?_role_iff.2 proper
  | effect text =>
    show Part.ofKey? "e".toList = some .effect
    decide
  | matcher text =>
    show Part.ofKey? "m".toList = some .matcher
    decide

theorem Proper.key : (∃ letter digits, entry.key.toList = letter :: digits ∧ letter ≠ '#' ∧ letter ≠ '[') ∧
    ∀ c ∈ entry.key.toList, isSpace c = false ∧ c ≠ '=' := by
  obtain ⟨digits, spelled, -⟩ := Part.exists_digits proper.ofKey?
  refine ⟨⟨entry.part.letter, digits, spelled, by cases entry.part <;> decide⟩, ?_⟩
  intro c inside
  have word := Part.isAlphanum_of_ofKey? proper.ofKey? c inside
  refine ⟨isSpace_alphanum word, ?_⟩
  rintro rfl
  cases word

/-- Trimmed in front or behind, a value is still one of the definition; and it does not end with a
backslash. -/
theorem Proper.value {value : List Char} (spelled : entry.ValueSpelled value) :
    entry.ValueSpelled (trimStart value) ∧ entry.ValueSpelled (trimEnd value) ∧
      trimEnd value ≠ [] ∧ (trimEnd value).getLast? ≠ some '\\' := by
  have listed {names : List String} (identifiers : ∀ name ∈ names, IsIdentifier name)
      (listed : Listed names value) : Listed names (trimStart value) ∧ Listed names (trimEnd value) ∧
        trimEnd value ≠ [] ∧ (trimEnd value).getLast? ≠ some '\\' := by
    have solid : ∀ name ∈ names, IsItem name :=
      fun name inside => (isItem_of_isIdentifier (identifiers name inside)).1
    obtain ⟨behind, last, inside, same⟩ := listed.trimEnd solid
    refine ⟨listed.trimStart solid, behind, ?_, ?_⟩
    · intro none
      rw [none, eq_comm, List.getLast?_nil, List.getLast?_eq_none_iff] at same
      exact (solid last inside).some same
    · rw [same]
      exact (isItem_of_isIdentifier (identifiers last inside)).2
  have expression {text : String} (isExpression : IsExpression text)
      (last : text.toList.getLast? ≠ some '\\') (padded : Padded text.toList value) :
      Padded text.toList (trimStart value) ∧ Padded text.toList (trimEnd value) ∧
        trimEnd value ≠ [] ∧ (trimEnd value).getLast? ≠ some '\\' := by
    have some : text.toList ≠ [] := by simpa using isExpression.some
    refine ⟨padded.trimStart some isExpression.trimmed, padded.trimEnd some isExpression.trimmed,
      padded.trimEnd_ne_nil some isExpression.trimmed, ?_⟩
    rw [padded.getLast_trimEnd some isExpression.trimmed]
    exact last
  cases entry with
  | request fields => exact listed proper.identifiers spelled
  | policy type fields => exact listed proper.2.identifiers spelled
  | role type shape =>
    refine listed ?_ spelled
    intro name inside
    rw [List.eq_of_mem_replicate inside]
    exact isIdentifier_placeholder
  | effect text => exact expression proper.1 proper.2 spelled
  | matcher text => exact expression proper.1 proper.2 spelled

end Entry

namespace Draft

/-- The draft with one more definition. -/
def withEntry (draft : Draft) (entry : Entry) : Draft :=
  let draft := { draft with keys := entry.key :: draft.keys }
  match entry with
  | .request fields => { draft with request? := some fields }
  | .policy type fields => { draft with policies := draft.policies.insert type fields }
  | .role type shape => { draft with roles := draft.roles.insert type shape }
  | .effect text => { draft with effect? := some text }
  | .matcher text => { draft with matcher? := some text }

theorem header?_withEntry (draft : Draft) (entry : Entry) :
    (draft.withEntry entry).header? = draft.header? := by
  cases entry <;> rfl

theorem readShape_replicate (key : String) (shape : RoleShape) :
    readShape key (List.replicate shape.arity "_") = .ok shape := by
  cases shape <;> rfl

/-- A value that is spelled somehow, and trimmed, is entered as what it defines. -/
theorem enter_eq {draft : Draft} {entry : Entry} (proper : entry.Proper) {value : List Char}
    (spelled : entry.ValueSpelled value) :
    enter { draft with keys := entry.key :: draft.keys } entry.part entry.key
      (String.ofList (trim value)) = .ok (draft.withEntry entry) := by
  have spelled' : entry.ValueSpelled (trim value) := (proper.value (proper.value spelled).1).2.1
  have listed {names : List String} (identifiers : ∀ name ∈ names, IsIdentifier name)
      (listed : Listed names (trim value)) : items (String.ofList (trim value)).toList = names := by
    rw [String.toList_ofList]
    exact listed.splitOn_eq fun name inside => (isItem_of_isIdentifier (identifiers name inside)).1
  have fields {key : String} {names : List String} (isFieldList : IsFieldList names)
      (list : Listed names (trim value)) :
      readFields key [] (items (String.ofList (trim value)).toList) = .ok names := by
    rw [listed isFieldList.identifiers list]
    exact (readFields_eq_ok List.nodup_nil).2 ⟨rfl, isFieldList.distinct, isFieldList.identifiers⟩
  have expression {text : String} (isExpression : IsExpression text)
      (padded : Padded text.toList value) : String.ofList (trim value) = text := by
    rw [padded.trim_eq (by simpa using isExpression.some) isExpression.trimmed, String.ofList_toList]
  cases entry with
  | request names => exact Result.bind_eq_ok.2 ⟨names, fields proper spelled', rfl⟩
  | policy type names => exact Result.bind_eq_ok.2 ⟨names, fields proper.2 spelled', rfl⟩
  | role type shape =>
    have placeholders : items (String.ofList (trim value)).toList = List.replicate shape.arity "_" := by
      refine listed ?_ spelled'
      intro name inside
      rw [List.eq_of_mem_replicate inside]
      exact isIdentifier_placeholder
    refine Result.bind_eq_ok.2 ⟨shape, ?_, rfl⟩
    rw [placeholders]
    exact readShape_replicate type shape
  | effect text =>
    rw [expression proper.1 spelled]
    rfl
  | matcher text =>
    rw [expression proper.1 spelled]
    rfl

/-- A draft in which just some definitions have been read. -/
structure Holds (draft : Draft) (entries : List Entry) : Prop where
  keys : ∀ key, key ∈ draft.keys ↔ key ∈ entries.map Entry.key
  request : ∀ fields, draft.request? = some fields ↔ .request fields ∈ entries
  policies : ∀ type fields, draft.policies.find? type = some fields ↔ .policy type fields ∈ entries
  roles : ∀ type shape, draft.roles.find? type = some shape ↔ .role type shape ∈ entries
  effect : ∀ text, draft.effect? = some text ↔ .effect text ∈ entries
  matcher : ∀ text, draft.matcher? = some text ↔ .matcher text ∈ entries

theorem holds_nil : Holds {} [] := by
  constructor <;> simp

/-- With a definition whose key is new, just this one is added. -/
theorem Holds.withEntry {draft : Draft} {entries : List Entry} (holds : draft.Holds entries)
    {entry : Entry} (fresh : entry.key ∉ entries.map Entry.key) :
    (draft.withEntry entry).Holds (entries ++ [entry]) := by
  have absent : ∀ other ∈ entries, other.key ≠ entry.key := by
    intro other inside same
    exact fresh (List.mem_map.2 ⟨other, inside, same⟩)
  have keys : ∀ key, key ∈ (draft.withEntry entry).keys ↔ key ∈ (entries ++ [entry]).map Entry.key := by
    intro key
    have noted : (draft.withEntry entry).keys = entry.key :: draft.keys := by cases entry <;> rfl
    rw [noted, List.mem_cons, holds.keys, List.map_append, List.mem_append, or_comm, List.map_singleton,
      List.mem_singleton]
  cases entry with
  | request fields =>
    refine ⟨keys, ?_, by simpa [Draft.withEntry] using holds.policies,
      by simpa [Draft.withEntry] using holds.roles, by simpa [Draft.withEntry] using holds.effect,
      by simpa [Draft.withEntry] using holds.matcher⟩
    intro other
    have none : .request other ∉ entries := fun inside => absent _ inside rfl
    simp [Draft.withEntry, none, eq_comm]
  | policy type fields =>
    refine ⟨keys, by simpa [Draft.withEntry] using holds.request, ?_,
      by simpa [Draft.withEntry] using holds.roles, by simpa [Draft.withEntry] using holds.effect,
      by simpa [Draft.withEntry] using holds.matcher⟩
    intro other names
    by_cases here : other = type
    · subst here
      have none : .policy other names ∉ entries := fun inside => absent _ inside rfl
      simp [Draft.withEntry, Catalogue.find?_insert_self, none, eq_comm]
    · simp [Draft.withEntry, Catalogue.find?_insert_other _ _ here, holds.policies, here]
  | role type shape =>
    refine ⟨keys, by simpa [Draft.withEntry] using holds.request,
      by simpa [Draft.withEntry] using holds.policies, ?_, by simpa [Draft.withEntry] using holds.effect,
      by simpa [Draft.withEntry] using holds.matcher⟩
    intro other shape'
    by_cases here : other = type
    · subst here
      have none : .role other shape' ∉ entries := fun inside => absent _ inside rfl
      simp [Draft.withEntry, Catalogue.find?_insert_self, none, eq_comm]
    · simp [Draft.withEntry, Catalogue.find?_insert_other _ _ here, holds.roles, here]
  | effect text =>
    refine ⟨keys, by simpa [Draft.withEntry] using holds.request,
      by simpa [Draft.withEntry] using holds.policies, by simpa [Draft.withEntry] using holds.roles, ?_,
      by simpa [Draft.withEntry] using holds.matcher⟩
    intro other
    have none : .effect other ∉ entries := fun inside => absent _ inside rfl
    simp [Draft.withEntry, none, eq_comm]
  | matcher text =>
    refine ⟨keys, by simpa [Draft.withEntry] using holds.request,
      by simpa [Draft.withEntry] using holds.policies, by simpa [Draft.withEntry] using holds.roles,
      by simpa [Draft.withEntry] using holds.effect, ?_⟩
    intro other
    have none : .matcher other ∉ entries := fun inside => absent _ inside rfl
    simp [Draft.withEntry, none, eq_comm]

theorem cut?_append {separator : Char} {before : List Char} (fresh : separator ∉ before)
    (after : List Char) : cut? separator (before ++ separator :: after) = some (before, after) := by
  induction before with
  | nil => simp [cut?]
  | cons c rest ih =>
    rw [List.mem_cons, not_or] at fresh
    rw [List.cons_append, cut?, if_neg (Ne.symm fresh.1), ih fresh.2]
    rfl

/-- A header is read whatever blanks there are in it. -/
theorem readLine_header (draft : Draft) {part : Part} {title line : List Char}
    (titled : Padded part.title.toList title) (padded : Padded ('[' :: (title ++ [']'])) line) :
    trim line = '[' :: (title ++ [']']) ∧
      draft.readLine (trim line) = .ok { draft with header? := some part } := by
  have core : trim line = '[' :: (title ++ [']']) := by
    apply padded.trim_eq (by simp)
    constructor
    · rfl
    · rw [← List.cons_append, List.getLast?_concat]
      rfl
  refine ⟨core, ?_⟩
  have name : String.ofList (trim title) = part.title := by
    rw [titled.trim_eq, String.ofList_toList]
    · cases part <;> decide
    · exact trimmed_of_solid (solid_of_any (by cases part <;> decide))
  have known : Part.ofHeader? part.title = some part := by cases part <;> rfl
  rw [core, readLine, List.getLast?_concat, if_pos rfl, List.dropLast_concat]
  simp only [name, known]

/-- The line of a definition, trimmed: in front of the first equals sign there is the key, behind it a
value. -/
theorem trim_spelled {entry : Entry} (proper : entry.Proper) {line : List Char}
    (spelled : entry.Spelled line) : ∃ letter rest value, trim line = letter :: rest ++ '=' :: value ∧
      trim (letter :: rest) = entry.key.toList ∧ '=' ∉ letter :: rest ∧ letter ≠ '#' ∧ letter ≠ '[' ∧
      entry.ValueSpelled value ∧ value ≠ [] ∧ value.getLast? ≠ some '\\' := by
  obtain ⟨key, value, ⟨front, back, blank, blank', rfl⟩, stated, rfl⟩ := spelled
  obtain ⟨⟨letter, digits, word, notHash, notBracket⟩, solid⟩ := proper.key
  obtain ⟨-, behind, some, last⟩ := proper.value stated
  refine ⟨letter, digits ++ back, trimEnd value, ?_, ?_, ?_, notHash, notBracket, behind, some, last⟩
  · have start : trimStart (front ++ (entry.key.toList ++ back)) = letter :: (digits ++ back) := by
      rw [trimStart_append_blank blank, word, List.cons_append]
      exact trimStart_cons (solid letter (by simp [word])).1
    have finish : trimEnd ('=' :: value) = '=' :: trimEnd value := trimEnd_cons (by decide) value
    have nonblank : trimStart (front ++ (entry.key.toList ++ back)) ≠ [] := by
      rw [start]
      exact List.cons_ne_nil _ _
    rw [trim, List.append_assoc front, trimStart_append nonblank, start, trimEnd_append_solid, finish]
    rw [finish]
    exact List.cons_ne_nil _ _
  · have padded : Padded entry.key.toList (letter :: (digits ++ back)) :=
      ⟨[], back, by simp, blank', by simp [word]⟩
    exact padded.trim_eq (by simp [word]) (trimmed_of_solid fun c inside => (solid c inside).1)
  · rw [← List.cons_append, ← word, List.mem_append, not_or]
    refine ⟨fun inside => (solid _ inside).2 rfl, ?_⟩
    intro inside
    exact ne_of_isSpace (blank' _ inside) (by decide : isSpace '=' = false) rfl

/-- A definition is read if its key is new and the header above it, if there is one, is for its kind. -/
theorem readLine_entry {draft : Draft} {entry : Entry} (proper : entry.Proper)
    (below : ∀ part, draft.header? = some part → part = entry.part) (fresh : entry.key ∉ draft.keys)
    {line : List Char} (spelled : entry.Spelled line) :
    (trim line).head? ≠ some '#' ∧ (trim line).getLast? ≠ some '\\' ∧ trim line ≠ [] ∧
      draft.readLine (trim line) = .ok (draft.withEntry entry) := by
  obtain ⟨letter, rest, value, whole, key, unique, notHash, notBracket, stated, some, last⟩ :=
    trim_spelled proper spelled
  rw [whole]
  refine ⟨by simpa using notHash, ?_, by simp, ?_⟩
  · rw [List.getLast?_append_of_ne_nil _ (by simp), List.getLast?_cons]
    obtain ⟨c, final⟩ := Option.ne_none_iff_exists'.1 (mt List.getLast?_eq_none_iff.1 some)
    rw [final] at last ⊢
    exact last
  · have parted := cut?_append unique value
    have defined : trim value ≠ [] := (proper.value (proper.value stated).1).2.2.1
    have fits : draft.header?.any (· != entry.part) = false := by
      rw [Option.any_eq_false]
      intro part given
      simp [below part given]
    rw [readLine]
    · rw [parted]
      simp only [define, key, proper.ofKey?, fits, String.ofList_toList, fresh, List.isEmpty_iff, defined,
        Bool.false_eq_true, if_false]
      exact enter_eq proper stated
    · rintro header same
      cases same
      exact notBracket rfl

/-- Between definitions, blank lines and comments are passed over. -/
theorem logicalLines_skipped {number : Nat} {raw : List Char} {rest : List (Nat × List Char)}
    (skipped : trim raw = [] ∨ (trim raw).head? = some '#') :
    logicalLines ((number, raw) :: rest) none = logicalLines rest none := by
  rw [logicalLines]
  rcases skipped with blank | comment
  · simp [blank]
  · simp [comment]

theorem logicalLines_kept {number : Nat} {raw : List Char} {rest : List (Nat × List Char)}
    (solid : (trim raw).head? ≠ some '#') (last : (trim raw).getLast? ≠ some '\\')
    (some : trim raw ≠ []) :
    logicalLines ((number, raw) :: rest) none = ⟨number, trim raw⟩ :: logicalLines rest none := by
  rw [logicalLines]
  simp [solid, last, some, Pending.join]

theorem readLines_cons {draft next : Draft} {number : Nat} {line : List Char} {rest : List Pending}
    (read : draft.readLine line = .ok next) :
    draft.readLines (⟨number, line⟩ :: rest) = next.readLines rest := by
  rw [readLines, read]

/-- Definitions that are laid out below one another are read one after another. -/
theorem readLines_of_laid {header? : Option Part} {entries : List Entry} {lines : List (List Char)}
    (laid : Laid header? entries lines) (proper : ∀ entry ∈ entries, entry.Proper)
    {numbered : List (Nat × List Char)} (same : numbered.map (fun line => trim line.2) = lines.map trim)
    {draft : Draft} (under : draft.header? = header?) {seen : List Entry} (holds : draft.Holds seen)
    (distinct : ((seen ++ entries).map Entry.key).Nodup) :
    ∃ after, draft.readLines (logicalLines numbered none) = .ok after ∧ after.Holds (seen ++ entries) := by
  induction laid generalizing numbered draft seen with
  | nil header? =>
    rw [List.map_nil, List.map_eq_nil_iff] at same
    rw [same, List.append_nil]
    exact ⟨draft, rfl, holds⟩
  | blank blank _ ih =>
    obtain ⟨⟨number, raw⟩, numbered, rfl, here, later⟩ := List.map_eq_cons_iff.1 same
    have nothing : trim raw = [] := by
      have text := trimStart_append_blank blank []
      rw [List.append_nil] at text
      rw [here, trim, text]
      rfl
    rw [logicalLines_skipped (.inl nothing)]
    exact ih proper later under holds distinct
  | @comment header? entries front text lines blank _ ih =>
    obtain ⟨⟨number, raw⟩, numbered, rfl, here, later⟩ := List.map_eq_cons_iff.1 same
    have start : (trim raw).head? = some '#' := by
      rw [here, head_trim, trimStart_append_blank blank, trimStart_cons (by decide)]
      rfl
    rw [logicalLines_skipped (.inr start)]
    exact ih proper later under holds distinct
  | @header header? part entries title line lines titled padded _ ih =>
    obtain ⟨⟨number, raw⟩, numbered, rfl, here, later⟩ := List.map_eq_cons_iff.1 same
    obtain ⟨whole, read⟩ := readLine_header draft titled padded
    change trim raw = trim line at here
    have kept : logicalLines ((number, raw) :: numbered) none =
        ⟨number, trim raw⟩ :: logicalLines numbered none := by
      apply logicalLines_kept
      · simp [here, whole]
      · rw [here, whole, ← List.cons_append, List.getLast?_concat]
        decide
      · simp [here, whole]
    rw [kept, here, readLines_cons read]
    exact ih proper later rfl ⟨holds.keys, holds.request, holds.policies, holds.roles, holds.effect,
      holds.matcher⟩ distinct
  | @entry header? entry entries line lines below spelled _ ih =>
    obtain ⟨⟨number, raw⟩, numbered, rfl, here, later⟩ := List.map_eq_cons_iff.1 same
    change trim raw = trim line at here
    rw [List.forall_mem_cons] at proper
    rw [List.append_cons] at distinct ⊢
    have fresh : entry.key ∉ seen.map Entry.key := by
      have front : ((seen ++ [entry]).map Entry.key).Nodup := by
        rw [List.map_append] at distinct
        exact (List.nodup_append.1 distinct).1
      rw [List.map_append, List.nodup_append] at front
      intro inside
      exact front.2.2 _ inside _ (by simp) rfl
    obtain ⟨solid, last, some, read⟩ :=
      readLine_entry proper.1 (under ▸ below) (fun inside => fresh ((holds.keys _).1 inside)) spelled
    rw [logicalLines_kept (here ▸ solid) (here ▸ last) (here ▸ some), here, readLines_cons read]
    exact ih proper.2 later ((header?_withEntry draft entry).trans under) (holds.withEntry fresh) distinct

end Draft

/-- What stands behind the last line feed may be left out if it is nothing. -/
theorem Laid.of_append_nil {header? : Option Part} {entries : List Entry} {lines : List (List Char)}
    (laid : Laid header? entries (lines ++ [[]])) : Laid header? entries lines := by
  generalize whole : lines ++ [[]] = all at laid
  induction laid generalizing lines with
  | nil header? => simp at whole
  | blank blank rest ih =>
    cases lines with
    | nil =>
      cases whole
      exact rest
    | cons line lines =>
      cases whole
      exact .blank blank (ih rfl)
  | comment blank rest ih =>
    cases lines with
    | nil => simp at whole
    | cons line lines =>
      cases whole
      exact .comment blank (ih rfl)
  | header titled padded rest ih =>
    cases lines with
    | nil =>
      cases whole
      obtain ⟨front, back, -, -, same⟩ := padded
      simp at same
    | cons line lines =>
      cases whole
      exact .header titled padded (ih rfl)
  | entry below spelled rest ih =>
    cases lines with
    | nil =>
      cases whole
      obtain ⟨key, value, -, -, same⟩ := spelled
      simp at same
    | cons line lines =>
      cases whole
      exact .entry below spelled (ih rfl)

section
variable {model : Model} (formed : model.WellFormed)
include formed

/-- No two definitions of a model have the same key. -/
theorem WellFormed.nodup_keys : (model.entries.map Entry.key).Nodup := by
  have policy : ∀ type ∈ model.policies.names, type.toList.head? = some 'p' := by
    intro type inside
    obtain ⟨names, found⟩ := (Catalogue.mem_names_iff _ _).1 inside
    obtain ⟨digits, spelled, -⟩ := isKey_iff.1 (formed.policies type names found).1
    simp [spelled]
  have role : ∀ type ∈ model.roles.names, type.toList.head? = some 'g' := by
    intro type inside
    obtain ⟨shape, found⟩ := (Catalogue.mem_names_iff _ _).1 inside
    obtain ⟨digits, spelled, -⟩ := isKey_iff.1 (formed.roles type shape found).1
    simp [spelled]
  have keys : model.entries.map Entry.key =
      "r" :: "e" :: "m" :: (model.policies.names ++ model.roles.names) := by
    simp [entries, Entry.key, Catalogue.names, Function.comp_def]
  have apart : ∀ key ∈ model.policies.names ++ model.roles.names, key ≠ "r" ∧ key ≠ "e" ∧ key ≠ "m" := by
    intro key inside
    have letter : key.toList.head? = some 'p' ∨ key.toList.head? = some 'g' :=
      (List.mem_append.1 inside).imp (policy key) (role key)
    refine ⟨?_, ?_, ?_⟩ <;> (rintro rfl; revert letter; decide)
  rw [keys]
  have types : (model.policies.names ++ model.roles.names).Nodup := by
    rw [List.nodup_append]
    refine ⟨model.policies.nodup_names, model.roles.nodup_names, ?_⟩
    rintro type inside _ inside' rfl
    have letter := policy type inside
    rw [role type inside'] at letter
    cases letter
  refine List.nodup_cons.2 ⟨?_, List.nodup_cons.2 ⟨?_, List.nodup_cons.2 ⟨?_, types⟩⟩⟩
  · rw [List.mem_cons, List.mem_cons, not_or, not_or]
    exact ⟨by decide, by decide, fun inside => (apart _ inside).1 rfl⟩
  · rw [List.mem_cons, not_or]
    exact ⟨by decide, fun inside => (apart _ inside).2.1 rfl⟩
  · exact fun inside => (apart _ inside).2.2 rfl

theorem WellFormed.proper (effect : model.effect.toList.getLast? ≠ some '\\')
    (matcher : model.matcher.toList.getLast? ≠ some '\\') : ∀ entry ∈ model.entries, entry.Proper := by
  unfold entries
  rw [List.forall_mem_cons, List.forall_mem_cons, List.forall_mem_cons]
  refine ⟨formed.request, ⟨formed.effect, effect⟩, ⟨formed.matcher, matcher⟩, ?_⟩
  intro entry inside
  rcases List.mem_append.1 inside with policy | role
  · obtain ⟨⟨type, names⟩, found, rfl⟩ := List.mem_map.1 policy
    exact formed.policies type names ((Catalogue.find?_eq_some_iff _).2 found)
  · obtain ⟨⟨type, shape⟩, found, rfl⟩ := List.mem_map.1 role
    exact (formed.roles type shape ((Catalogue.find?_eq_some_iff _).2 found)).1

/-- A draft with the definitions of a model is complete. -/
theorem WellFormed.complete_eq {draft : Draft} {entries : List Entry} (holds : draft.Holds entries)
    (perm : entries.Perm model.entries) : draft.complete = .ok model := by
  have request : draft.request? = some model.request :=
    (holds.request _).2 (perm.mem_iff.2 (by simp [Model.entries]))
  have effect : draft.effect? = some model.effect :=
    (holds.effect _).2 (perm.mem_iff.2 (by simp [Model.entries]))
  have matcher : draft.matcher? = some model.matcher :=
    (holds.matcher _).2 (perm.mem_iff.2 (by simp [Model.entries]))
  have policies : draft.policies = model.policies := by
    apply Catalogue.eq_of_find?
    intro type
    apply Option.ext
    intro names
    rw [holds.policies, perm.mem_iff, Catalogue.find?_eq_some_iff]
    simp [Model.entries]
  have roles : draft.roles = model.roles := by
    apply Catalogue.eq_of_find?
    intro type
    apply Option.ext
    intro shape
    rw [holds.roles, perm.mem_iff, Catalogue.find?_eq_some_iff]
    simp [Model.entries]
  have declared : draft.policies.entries ≠ [] := by
    simpa [Catalogue.names, policies] using formed.declared
  exact Draft.complete_eq_ok.2 ⟨request, declared, policies, roles, effect, matcher⟩

/-- Whatever the layout of a well-formed model is, it is read as the model. -/
theorem WellFormed.ofText_eq (effect : model.effect.toList.getLast? ≠ some '\\')
    (matcher : model.matcher.toList.getLast? ≠ some '\\') {entries : List Entry}
    (perm : entries.Perm model.entries) {text : String}
    (laid : Laid none entries (text.toList.splitOn '\n')) : ofText text = .ok model := by
  obtain ⟨pieces, cut, trims⟩ := exists_trimmed_lines text.toList
  have laid' : Laid none entries pieces := by
    rcases cut with same | same
    · exact same ▸ laid
    · exact (same ▸ laid).of_append_nil
  have proper : ∀ entry ∈ entries, entry.Proper :=
    fun entry inside => formed.proper effect matcher entry (perm.mem_iff.1 inside)
  have distinct : (([] ++ entries).map Entry.key).Nodup := (perm.map _).nodup_iff.2 formed.nodup_keys
  obtain ⟨draft, read, holds⟩ := Draft.readLines_of_laid laid' proper trims rfl Draft.holds_nil distinct
  exact Result.bind_eq_ok.2 ⟨draft, read, formed.complete_eq holds perm⟩

end

/-- What is read from a text is a well-formed model; and a well-formed model whose expressions do not end
with a backslash is read from every text in which its definitions are laid out, in any order and with or
without headers, comments and blanks. -/
theorem ofText_exact :
    (∀ (text : String) (model : Model), ofText text = .ok model → model.WellFormed) ∧
    ∀ model : Model, model.WellFormed → model.effect.toList.getLast? ≠ some '\\' →
      model.matcher.toList.getLast? ≠ some '\\' →
      ∀ entries : List Entry, entries.Perm model.entries →
        ∀ text : String, Laid none entries (text.toList.splitOn '\n') → ofText text = .ok model := by
  refine ⟨fun text model => wellFormed_ofText, ?_⟩
  intro model formed effect matcher entries perm text laid
  exact formed.ofText_eq effect matcher perm laid

/-- A model with one definition under a header and the others, with a comment behind them, in front of
it. -/
theorem ofText_exact_of_header :
    ofText "p =\tsub ,act\r\n\n r=sub\ne=priority(p.eft)\n # \\\n[ matchers]\nm = true \n" =
      .ok ⟨["sub"], .ofList [("p", ["sub", "act"])], .empty, "priority(p.eft)", "true"⟩ := by
  have formed := ofText_exact.1 "r=sub\np=sub,act\ne=priority(p.eft)\nm=true"
    ⟨["sub"], .ofList [("p", ["sub", "act"])], .empty, "priority(p.eft)", "true"⟩ rfl
  have cut : ("p =\tsub ,act\r\n\n r=sub\ne=priority(p.eft)\n # \\\n[ matchers]\nm = true \n".toList).splitOn
      '\n' = ["p ".toList ++ '=' :: ("\tsub ".toList ++ ',' :: "act\r".toList), [],
        " r".toList ++ '=' :: "sub".toList, "e".toList ++ '=' :: "priority(p.eft)".toList,
        " ".toList ++ '#' :: " \\".toList, "[ matchers]".toList, "m ".toList ++ '=' :: " true ".toList,
        []] := by decide +kernel
  apply ofText_exact.2 _ formed (by decide) (by decide)
    [.policy "p" ["sub", "act"], .request ["sub"], .effect "priority(p.eft)", .matcher "true"]
  · let definitions : List Entry := [.request ["sub"], .effect "priority(p.eft)", .matcher "true"]
    let policy := Entry.policy "p" ["sub", "act"]
    change ([policy] ++ definitions).Perm (definitions ++ [policy])
    exact List.perm_append_comm
  · have nothing : ∀ c ∈ ([] : List Char), isSpace c = true := nofun
    have single : ∀ c ∈ [' '], isSpace c = true := List.all_eq_true.1 (by decide)
    have bare (text : List Char) : Padded text text := ⟨[], [], nothing, nothing, by simp⟩
    have title : Padded (Part.title .matcher).toList " matchers".toList :=
      ⟨[' '], [], single, nothing, by decide⟩
    have policy : Padded "p".toList "p ".toList := ⟨[], [' '], nothing, single, by decide⟩
    have request : Padded "r".toList " r".toList := ⟨[' '], [], single, nothing, by decide⟩
    have matcher : Padded "m".toList "m ".toList := ⟨[], [' '], nothing, single, by decide⟩
    have subject : Padded "sub".toList "\tsub ".toList :=
      ⟨['\t'], [' '], List.all_eq_true.1 (by decide), single, by decide⟩
    have action : Padded "act".toList "act\r".toList :=
      ⟨[], ['\r'], nothing, List.all_eq_true.1 (by decide), by decide⟩
    have truth : Padded "true".toList " true ".toList := ⟨[' '], [' '], single, single, by decide⟩
    rw [cut]
    refine .entry nofun ⟨_, _, policy, .more subject (.one action), rfl⟩ ?_
    refine .blank nothing ?_
    refine .entry nofun ⟨_, _, request, .one (bare _), rfl⟩ ?_
    refine .entry nofun ⟨_, _, bare _, bare _, rfl⟩ ?_
    refine .comment (List.all_eq_true.1 (by decide)) ?_
    refine .header title (bare _) ?_
    refine .entry ?_ ⟨_, _, matcher, truth, rfl⟩ (.blank nothing (.nil _))
    rintro _ ⟨⟩
    rfl

end Model
end AccessControl
