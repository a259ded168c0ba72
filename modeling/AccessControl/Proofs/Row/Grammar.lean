import AccessControl.PolicyText
import AccessControl.Proofs.Row.Cells
import AccessControl.Proofs.Text.Padding
/-!
The grammar of rows. A row is at least one cell, with commas between the cells. A quoted cell holds any
text, its quotes doubled, with blanks around it; a bare cell holds a text without commas that does not
start with a quote. The grammar knows nothing of a reader: it is shown that just its rows are read, each
as the contents of its cells.
-/
namespace AccessControl.Row
open Text

/-- A text that is a cell, and the content of the cell. All blanks in front are taken away before it is
told whether the cell is quoted, so that a bare cell starts with neither a blank nor a quote. -/
inductive Cell : List Char → String → Prop
  | quoted {front back content : List Char} (before : ∀ c ∈ front, isSpace c = true)
      (behind : ∀ c ∈ back, isSpace c = true) :
      Cell (front ++ '"' :: (doubleQuotes content ++ '"' :: back)) (String.ofList content)
  | bare {front body : List Char} (before : ∀ c ∈ front, isSpace c = true) (single : ',' ∉ body)
      (start : body.head? ≠ some '"') (first : body.head?.any isSpace = false) :
      Cell (front ++ body) (String.ofList (trimEnd body))

/-- A text that is a row of cells, and their contents. -/
inductive Cells : List Char → List String → Prop
  | one {text : List Char} {value : String} (cell : Cell text value) : Cells text [value]
  | more {text rest : List Char} {value : String} {values : List String} (cell : Cell text value)
      (later : Cells rest values) : Cells (text ++ ',' :: rest) (value :: values)

/-- What may stand behind a cell: nothing, or a comma with anything behind it. -/
def Ends (after : List Char) : Prop := ∀ c, after.head? = some c → c = ','

theorem ends_nil : Ends [] := nofun

theorem ends_comma (rest : List Char) : Ends (',' :: rest) := by
  rintro _ ⟨⟩
  rfl

theorem Ends.cases {after : List Char} (ends : Ends after) :
    after = [] ∨ ∃ rest, after = ',' :: rest := by
  cases after with
  | nil => exact .inl rfl
  | cons c rest => exact .inr ⟨rest, by rw [ends c rfl]⟩

/-- A text without commas, with the end of a cell behind it, is cut off at that end. -/
theorem takeWhile_append_ends {body after : List Char} (single : ',' ∉ body) (ends : Ends after) :
    (body ++ after).takeWhile (· != ',') = body ∧ (body ++ after).dropWhile (· != ',') = after := by
  have passed : ∀ c ∈ body, (c != ',') = true := by
    intro c inside
    have other : c ≠ ',' := fun same => single (same ▸ inside)
    simpa using other
  rw [List.takeWhile_append_of_pos passed, List.dropWhile_append_of_pos passed]
  rcases ends.cases with rfl | ⟨rest, rfl⟩
  · exact ⟨List.append_nil body, rfl⟩
  · exact ⟨List.append_nil body, rfl⟩

/-- A cell is read as its content, whatever stands behind its end. -/
theorem Cell.read {text after : List Char} {value : String} (cell : Cell text value) (ends : Ends after) :
    readCell (text ++ after) = .ok (value.toList, after) := by
  have solid : after.head?.any isSpace = false := by
    rw [Option.any_eq_false]
    intro c first
    simp [ends c first, isSpace_comma]
  cases cell with
  | @quoted front back content before behind =>
    have start : trimStart (front ++ '"' :: (doubleQuotes content ++ '"' :: back) ++ after) =
        '"' :: (doubleQuotes content ++ '"' :: (back ++ after)) := by
      rw [List.append_assoc, trimStart_append_blank before, List.cons_append,
        trimStart_cons isSpace_quote, List.append_assoc, List.cons_append]
    have closed : (back ++ after).head? ≠ some '"' := by
      cases back with
      | nil =>
        intro quote
        exact absurd (ends _ quote) (by decide)
      | cons c more =>
        have blank := behind c List.mem_cons_self
        simpa using ne_of_isSpace blank isSpace_quote
    rw [readCell_quoted start (readQuoted_doubleQuotes content (back ++ after) closed),
      trimStart_append_blank behind, trimStart_of_head solid, String.toList_ofList]
  | @bare front body before single start first =>
    have trimmed : trimStart (front ++ body ++ after) = body ++ after := by
      rw [List.append_assoc, trimStart_append_blank before, trimStart_of_head]
      cases body with
      | nil => exact solid
      | cons c more => exact first
    have bare : (trimStart (front ++ body ++ after)).head? ≠ some '"' := by
      rw [trimmed]
      cases body with
      | nil =>
        intro quote
        exact absurd (ends _ quote) (by decide)
      | cons c more => exact start
    obtain ⟨taken, left⟩ := takeWhile_append_ends single ends
    rw [readCell_bare bare, trimmed, taken, left, String.toList_ofList]

/-- What is read up to the end of a cell is a cell. -/
theorem exists_cell_of_readCell {text content after : List Char}
    (read : readCell text = .ok (content, after)) :
    ∃ front, text = front ++ after ∧ Cell front (String.ofList content) := by
  have parts : text = text.takeWhile isSpace ++ trimStart text := List.takeWhile_append_dropWhile.symm
  have before : ∀ c ∈ text.takeWhile isSpace, isSpace c = true := fun _ => List.mem_takeWhile_imp
  by_cases start : (trimStart text).head? = some '"'
  · obtain ⟨body, quoted⟩ := List.head?_eq_some_iff.1 start
    cases inner : readQuoted body with
    | none =>
      rw [readCell_open quoted inner] at read
      cases read
    | some found =>
      obtain ⟨value, rest⟩ := found
      rw [readCell_quoted quoted inner] at read
      obtain ⟨rfl, rfl⟩ := Prod.mk.inj (Except.ok.inj read)
      obtain ⟨whole, -⟩ := readQuoted_eq_some_iff.1 inner
      have parts' : rest = rest.takeWhile isSpace ++ trimStart rest :=
        List.takeWhile_append_dropWhile.symm
      have behind : ∀ c ∈ rest.takeWhile isSpace, isSpace c = true := fun _ => List.mem_takeWhile_imp
      refine ⟨text.takeWhile isSpace ++ '"' :: (doubleQuotes value ++ '"' :: rest.takeWhile isSpace), ?_,
        .quoted before behind⟩
      calc
        text = text.takeWhile isSpace ++ '"' :: (doubleQuotes value ++ '"' :: rest) := by
          rw [← whole, ← quoted, ← parts]
        _ = text.takeWhile isSpace ++ '"' :: (doubleQuotes value ++
              '"' :: (rest.takeWhile isSpace ++ trimStart rest)) := by rw [← parts']
        _ = _ := by simp
  · rw [readCell_bare start] at read
    obtain ⟨rfl, rfl⟩ := Prod.mk.inj (Except.ok.inj read)
    have pieces := List.takeWhile_append_dropWhile (p := (· != ',')) (l := trimStart text)
    refine ⟨text.takeWhile isSpace ++ (trimStart text).takeWhile (· != ','), ?_, .bare before ?_ ?_ ?_⟩
    · rw [List.append_assoc, pieces, ← parts]
    · intro comma
      simpa using List.mem_takeWhile_imp comma
    · cases trimmed : trimStart text with
      | nil => simp
      | cons c rest =>
        rw [trimmed] at start
        by_cases comma : c = ','
        · simp [comma]
        · simpa [comma] using start
    · have solid := head_trimStart text
      cases trimmed : trimStart text with
      | nil => rfl
      | cons c rest =>
        rw [trimmed] at solid
        by_cases comma : c = ','
        · simp [comma]
        · simpa [comma] using solid

/-- The rows of the grammar are read as the contents of their cells. -/
theorem Cells.read {text : List Char} {values : List String} (cells : Cells text values) :
    readCells text = .ok values := by
  induction cells with
  | @one text value cell =>
    have first := cell.read ends_nil
    rw [List.append_nil] at first
    rw [readCells_eq, first]
    simp only [Except.bind, readRest, String.ofList_toList]
  | @more text rest value values cell later ih =>
    rw [readCells_eq, cell.read (ends_comma rest)]
    simp only [Except.bind, readRest, ih, String.ofList_toList]
    rfl

/-- A text that is read as one cell, wherever it stands. -/
structure IsCell (text : List Char) (value : String) : Prop where
  alone : readCells text = .ok [value]
  before : ∀ rest, readCells (text ++ ',' :: rest) = (readCells rest).map (value :: ·)

theorem Cell.isCell {text : List Char} {value : String} (cell : Cell text value) : IsCell text value := by
  constructor
  · exact (Cells.one cell).read
  · intro rest
    rw [readCells_eq, cell.read (ends_comma rest)]
    simp only [Except.bind, readRest, String.ofList_toList]

theorem isCell_bare {text : List Char} (single : ',' ∉ text) (start : text.head? ≠ some '"')
    (first : text.head?.any isSpace = false) (last : text.getLast?.any isSpace = false) :
    IsCell text (String.ofList text) := by
  have cell : Cell ([] ++ text) (String.ofList (trimEnd text)) := .bare nofun single start first
  rw [trimEnd_of_getLast last] at cell
  exact cell.isCell

theorem isCell_quoted (value : List Char) :
    IsCell ('"' :: (doubleQuotes value ++ ['"'])) (String.ofList value) := by
  have cell : Cell ([] ++ '"' :: (doubleQuotes value ++ ['"'])) (String.ofList value) := .quoted nofun nofun
  exact cell.isCell

theorem IsCell.afterBlank {text : List Char} {value : String} (cell : IsCell text value) {c : Char}
    (blank : isSpace c = true) : IsCell (c :: text) value := by
  have skipped : ∀ more, readCells (c :: more) = readCells more := by
    intro more
    rw [← readCells_trimStart, trimStart_cons_space blank, readCells_trimStart]
  exact ⟨by rw [skipped, cell.alone], fun rest => by rw [List.cons_append, skipped, cell.before]⟩

/-- A field is read as it was, whether it had to be quoted or not. -/
theorem isCell_writeField (field : List Char) : IsCell (writeField field) (String.ofList field) := by
  unfold writeField
  split
  · exact isCell_quoted field
  · next plain =>
    simp only [needsQuotes, Bool.or_eq_true, not_or, Bool.not_eq_true, List.any_eq_false,
      beq_iff_eq] at plain
    obtain ⟨⟨inner, first⟩, last⟩ := plain
    apply isCell_bare _ _ first last
    · exact fun inside => (inner ',' inside).1 rfl
    · intro quoted
      exact (inner '"' (List.mem_of_mem_head? quoted)).2 rfl

/-- A cell and some fields after it are read one by one. -/
theorem IsCell.readCells_fields {text : List Char} {value : String} (cell : IsCell text value)
    (fields : List String) :
    readCells (text ++ fields.flatMap fun field => ',' :: ' ' :: writeField field.toList) =
      .ok (value :: fields) := by
  induction fields generalizing text value with
  | nil => simpa using cell.alone
  | cons field rest ih =>
    have next : IsCell (' ' :: writeField field.toList) field := by
      have whole := (isCell_writeField field.toList).afterBlank (c := ' ') (by decide)
      rwa [String.ofList_toList] at whole
    rw [List.flatMap_cons, List.cons_append, cell.before, ih next]
    rfl

theorem fault_of_readCell {text : List Char} {fault : Fault} (failed : readCell text = .error fault) :
    fault = .unterminatedQuote := by
  by_cases start : (trimStart text).head? = some '"'
  · obtain ⟨body, quoted⟩ := List.head?_eq_some_iff.1 start
    cases inner : readQuoted body with
    | none =>
      rw [readCell_open quoted inner] at failed
      cases failed
      rfl
    | some found =>
      rw [readCell_quoted quoted inner] at failed
      cases failed
  · rw [readCell_bare start] at failed
    cases failed

/-- What is read is a row of the grammar. Otherwise there is a quote that is not closed, or something
stands behind a closing quote. -/
theorem cells_or_fault (text : List Char) :
    (∃ values, readCells text = .ok values ∧ Cells text values) ∨
      readCells text = .error .unterminatedQuote ∨ readCells text = .error .textAfterQuote := by
  rw [readCells_eq]
  cases first : readCell text with
  | error fault =>
    rw [fault_of_readCell first]
    exact .inr (.inl rfl)
  | ok found =>
    obtain ⟨content, after⟩ := found
    obtain ⟨front, whole, cell⟩ := exists_cell_of_readCell first
    simp only [Except.bind]
    cases after with
    | nil =>
      rw [List.append_nil] at whole
      exact .inl ⟨[String.ofList content], rfl, whole ▸ .one cell⟩
    | cons c rest =>
      by_cases comma : c = ','
      · subst comma
        have shorter : rest.length < text.length := length_of_readCell first
        rcases cells_or_fault rest with ⟨values, read, later⟩ | failed | failed
        · refine .inl ⟨String.ofList content :: values, ?_, whole ▸ .more cell later⟩
          simp only [readRest, read]
          rfl
        · right; left
          simp only [readRest, failed]
          rfl
        · right; right
          simp only [readRest, failed]
          rfl
      · exact .inr (.inr (readRest_other content comma rest))
termination_by text.length

/-- A text that a field may be written as: in quotes, with the quotes in it doubled, or bare, if it has
neither outer blanks nor commas and does not start with a quote; in either way with blanks around it. -/
inductive Spelled (field : String) : List Char → Prop
  | quoted {text : List Char} (padded : Padded ('"' :: (doubleQuotes field.toList ++ ['"'])) text) :
      Spelled field text
  | bare {text : List Char} (trimmed : Trimmed field.toList) (single : ',' ∉ field.toList)
      (start : field.toList.head? ≠ some '"') (padded : Padded field.toList text) : Spelled field text

theorem Spelled.cell {field : String} {text : List Char} (spelled : Spelled field text) :
    Cell text field := by
  cases spelled with
  | quoted padded =>
    obtain ⟨front, back, before, behind, rfl⟩ := padded
    have cell : Cell (front ++ '"' :: (doubleQuotes field.toList ++ '"' :: back)) field := by
      rw [← String.ofList_toList (s := field), String.toList_ofList]
      exact .quoted before behind
    simpa using cell
  | bare trimmed single start padded =>
    obtain ⟨front, back, before, behind, rfl⟩ := padded
    by_cases none : field.toList = []
    · -- Of an empty field there are only the blanks around it, which all stand in front.
      have blank : ∀ c ∈ front ++ back, isSpace c = true :=
        fun c inside => (List.mem_append.1 inside).elim (before c) (behind c)
      have content : String.ofList (trimEnd []) = field := by
        rw [← String.ofList_toList (s := field), none]
        rfl
      have cell := Cell.bare blank List.not_mem_nil nofun rfl
      rw [content, List.append_nil] at cell
      rwa [none, List.append_nil]
    · have content : String.ofList (trimEnd (field.toList ++ back)) = field := by
        rw [trimEnd_append_blank behind, trimEnd_of_getLast trimmed.back, String.ofList_toList]
      suffices cell : Cell (front ++ (field.toList ++ back))
          (String.ofList (trimEnd (field.toList ++ back))) by
        rwa [content, ← List.append_assoc] at cell
      refine .bare before ?_ ?_ ?_
      · rw [List.mem_append, not_or]
        exact ⟨single, fun inside => ne_of_isSpace (behind _ inside) isSpace_comma rfl⟩
      · rwa [List.head?_append_of_ne_nil _ none]
      · rw [List.head?_append_of_ne_nil _ none]
        exact trimmed.front

/-- Fields that are written one by one, with commas between them, are the cells of a row. -/
theorem cells_of_spelled {fields : List String} {texts : List (List Char)}
    (spelled : List.Forall₂ Spelled fields texts) (some : fields ≠ []) :
    Cells (List.intercalate [','] texts) fields := by
  induction spelled with
  | nil => exact absurd rfl some
  | @cons field text fields texts first later ih =>
    cases later with
    | nil => simpa using Cells.one first.cell
    | cons second others =>
      rw [List.intercalate_cons_cons]
      simpa using Cells.more first.cell (ih (List.cons_ne_nil _ _))

/-- Just the rows of the grammar are read, each as the contents of its cells. Any other line has one of the
two faults of quotes, and ends the reading of a policy text with its number. Fields come back however each
of them is written. -/
theorem readCells_exact (line : List Char) :
    (∀ values, readCells line = .ok values ↔ Cells line values) ∧
    ((∀ values, ¬Cells line values) → ∃ fault, (fault = .unterminatedQuote ∨ fault = .textAfterQuote) ∧
      readCells line = .error fault ∧
      (PolicyText.isSkipped (trim line) = false → ∀ number rest,
        PolicyText.readLines ((number, line) :: rest) = .error (.malformedRow number fault))) ∧
    ∀ fields texts, fields ≠ [] → List.Forall₂ Spelled fields texts →
      line = List.intercalate [','] texts → readCells line = .ok fields := by
  refine ⟨fun values => ⟨?_, Cells.read⟩, ?_, ?_⟩
  · intro read
    rcases cells_or_fault line with ⟨others, same, cells⟩ | failed | failed
    · rw [read] at same
      cases same
      exact cells
    · rw [failed] at read
      cases read
    · rw [failed] at read
      cases read
  · intro none
    have faulty : ∃ fault, (fault = .unterminatedQuote ∨ fault = .textAfterQuote) ∧
        readCells line = .error fault := by
      rcases cells_or_fault line with ⟨values, -, cells⟩ | failed | failed
      · exact absurd cells (none values)
      · exact ⟨_, .inl rfl, failed⟩
      · exact ⟨_, .inr rfl, failed⟩
    obtain ⟨fault, kind, failed⟩ := faulty
    refine ⟨fault, kind, failed, fun kept number rest => ?_⟩
    have refused : Row.read line = .error fault := by
      rw [Row.read, failed]
      rfl
    simp only [PolicyText.readLines, kept, Bool.false_eq_true, if_false, read_trim, refused]
  · rintro fields texts some spelled rfl
    exact (cells_of_spelled spelled some).read

/-- A row with all kinds of cells, each with blanks around it: a quoted one with a comma and a quote in it,
an empty one, and a bare one with a quote inside; and a line with something behind a closing quote. -/
theorem readCells_exact_of_padded :
    readCells "\t\" a,\"\"b\" , \t, c\"d ".toList = .ok [" a,\"b", "", "c\"d"] ∧
    ∃ fault, PolicyText.readLines [(2, "p, \"a\"b".toList)] = .error (.malformedRow 2 fault) := by
  constructor
  · have blank : ∀ c ∈ [' '], isSpace c = true := List.all_eq_true.1 (by decide)
    have tab : ∀ c ∈ ['\t'], isSpace c = true := List.all_eq_true.1 (by decide)
    have both : ∀ c ∈ [' ', '\t'], isSpace c = true := List.all_eq_true.1 (by decide)
    apply (readCells_exact _).2.2 _ ["\t\" a,\"\"b\" ".toList, " \t".toList, " c\"d ".toList] (by decide)
    · refine .cons (.quoted ⟨['\t'], [' '], tab, blank, by decide⟩) (.cons ?_ (.cons ?_ .nil))
      · exact .bare ⟨rfl, rfl⟩ (by decide) (by decide) ⟨[' ', '\t'], [], both, nofun, by decide⟩
      · exact .bare ⟨by decide, by decide⟩ (by decide) (by decide) ⟨[' '], [' '], blank, blank, by decide⟩
    · decide
  · have failed : readCells "p, \"a\"b".toList = .error .textAfterQuote := by decide +kernel
    have refused : ∀ values, ¬Cells "p, \"a\"b".toList values := by
      intro values cells
      rw [((readCells_exact _).1 values).2 cells] at failed
      cases failed
    obtain ⟨fault, -, -, ended⟩ := (readCells_exact _).2.1 refused
    exact ⟨fault, ended (by decide) 2 []⟩

end AccessControl.Row
