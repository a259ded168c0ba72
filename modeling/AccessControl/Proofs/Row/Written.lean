import AccessControl.Proofs.Row.Grammar
import Mathlib.Data.List.Basic
import Mathlib.Data.List.TakeWhile
/-!
Rows as they are written. A rule is read back from its row if it has fields and its type is what a bare
cell holds. Of any other type something else is read: if the type starts with a quote, then something
with fewer leading quotes, and otherwise the part of it before the first comma, without its blanks.
-/
namespace AccessControl

/-- A rule whose row is read as the rule again. -/
structure Rule.Rereads (rule : Rule) : Prop where
  fields : rule.fields ≠ []
  named : rule.type ≠ ""
  single : ',' ∉ rule.type.toList
  unbroken : '\n' ∉ rule.type.toList
  noComment : rule.type.toList.head? ≠ some '#'
  noQuote : rule.type.toList.head? ≠ some '"'
  first : rule.type.toList.head?.any Text.isSpace = false
  last : rule.type.toList.getLast?.any Text.isSpace = false

namespace Row
open Text

/-- A rule that has fields is read back from its row, if its type is what a bare cell holds. -/
theorem read_write {rule : Rule} (rereads : rule.Rereads) : Row.read (Row.write rule) = .ok rule := by
  have cell := isCell_bare rereads.single rereads.noQuote rereads.first rereads.last
  rw [String.ofList_toList] at cell
  exact read_eq_ok.2 ⟨cell.readCells_fields rule.fields, rereads.named, rereads.fields⟩

/-- The part of a type that is read back when the type is written bare. -/
def core (type : List Char) : List Char := trimEnd ((trimStart type).takeWhile (· != ','))

theorem core_sublist (type : List Char) : (core type).Sublist type :=
  (trimEnd_sublist _).trans ((List.takeWhile_sublist _).trans (List.dropWhile_sublist _))

/-- A type that is its own core is one that a bare cell holds. -/
theorem of_core_eq {type : List Char} (same : core type = type) :
    ',' ∉ type ∧ type.head?.any isSpace = false ∧ type.getLast?.any isSpace = false := by
  have passed : ∀ c ∈ core type, c ≠ ',' := by
    intro c inside
    simpa using List.mem_takeWhile_imp ((trimEnd_sublist _).subset inside)
  have trimmed : trimStart type = type := by
    apply (List.dropWhile_sublist _).eq_of_length_le
    have short := ((trimEnd_sublist _).trans
      (List.takeWhile_sublist (l := trimStart type) (· != ','))).length_le
    change (core type).length ≤ _ at short
    rwa [same] at short
  refine ⟨fun inside => passed ',' (same.symm ▸ inside) rfl, ?_, ?_⟩
  · rw [← trimmed]
    exact head_trimStart type
  · rw [← same]
    exact getLast_trimEnd _

/-- Quotes at the start of a text, counted over the blanks between them. -/
def leadingQuotes (text : List Char) : Nat :=
  (text.takeWhile fun c => isSpace c || c == '"').count '"'

theorem leadingQuotes_cons_space {c : Char} (blank : isSpace c = true) (rest : List Char) :
    leadingQuotes (c :: rest) = leadingQuotes rest := by
  have other : c ≠ '"' := ne_of_isSpace blank isSpace_quote
  simp [leadingQuotes, blank, other]

theorem leadingQuotes_cons_quote (rest : List Char) :
    leadingQuotes ('"' :: rest) = leadingQuotes rest + 1 := by
  simp [leadingQuotes]

theorem leadingQuotes_cons_other {c : Char} (solid : isSpace c = false) (other : c ≠ '"')
    (rest : List Char) : leadingQuotes (c :: rest) = 0 := by
  simp [leadingQuotes, solid, other]

theorem leadingQuotes_trimStart (text : List Char) : leadingQuotes (trimStart text) = leadingQuotes text := by
  induction text with
  | nil => rfl
  | cons c rest ih =>
    cases blank : isSpace c with
    | true => rw [trimStart_cons_space blank, leadingQuotes_cons_space blank, ih]
    | false => rw [trimStart_cons blank]

/-- No quote behind a comma leads. -/
theorem leadingQuotes_append_comma (text rest : List Char) :
    leadingQuotes (text ++ ',' :: rest) = leadingQuotes text := by
  induction text with
  | nil => exact leadingQuotes_cons_other isSpace_comma (by decide) rest
  | cons c text ih =>
    rw [List.cons_append]
    cases blank : isSpace c with
    | true => rw [leadingQuotes_cons_space blank, leadingQuotes_cons_space blank, ih]
    | false =>
      by_cases quote : c = '"'
      · rw [quote, leadingQuotes_cons_quote, leadingQuotes_cons_quote, ih]
      · rw [leadingQuotes_cons_other blank quote, leadingQuotes_cons_other blank quote]

theorem leadingQuotes_doubleQuotes_le (value rest : List Char) :
    2 * leadingQuotes value ≤ leadingQuotes (doubleQuotes value ++ rest) := by
  induction value with
  | nil => exact Nat.zero_le _
  | cons c value ih =>
    by_cases quote : c = '"'
    · simp only [doubleQuotes, quote, if_true, List.cons_append, leadingQuotes_cons_quote]
      omega
    · simp only [doubleQuotes, quote, if_false, List.cons_append]
      cases blank : isSpace c with
      | true => rwa [leadingQuotes_cons_space blank, leadingQuotes_cons_space blank]
      | false => rw [leadingQuotes_cons_other blank quote]; exact Nat.zero_le _

/-- What the first cell of a row holds, given what stands before the first comma that was written. A
type that starts with a quote has more leading quotes than what is read in its place; of any other
type its core is read. -/
theorem readCell_type {type rest value after : List Char} (some : value ≠ [])
    (read : readCell (type ++ ',' :: rest) = .ok (value, after)) :
    leadingQuotes value < leadingQuotes type ∨
      ((trimStart type).head? ≠ Option.some '"' ∧ value = core type) := by
  by_cases quoted : (trimStart (type ++ ',' :: rest)).head? = Option.some '"'
  · left
    obtain ⟨body, start⟩ := List.head?_eq_some_iff.1 quoted
    cases inner : readQuoted body with
    | none => simp [readCell_open start inner] at read
    | some found =>
      obtain ⟨content, left⟩ := found
      rw [readCell_quoted start inner] at read
      obtain ⟨rfl, -⟩ := Prod.mk.inj (Except.ok.inj read)
      obtain ⟨rfl, -⟩ := readQuoted_eq_some_iff.1 inner
      have doubled := leadingQuotes_doubleQuotes_le content ('"' :: left)
      have whole := leadingQuotes_append_comma type rest
      rw [← leadingQuotes_trimStart, start, leadingQuotes_cons_quote] at whole
      omega
  · right
    rw [readCell_bare quoted] at read
    obtain ⟨same, -⟩ := Prod.mk.inj (Except.ok.inj read)
    have solid : trimStart type ≠ [] := by
      intro blank
      rw [trimStart_append_of_blank blank, trimStart_cons isSpace_comma] at same
      exact some same.symm
    rw [trimStart_append solid] at quoted same
    refine ⟨?_, ?_⟩
    · cases start : trimStart type with
      | nil => simp
      | cons c more => simpa [start] using quoted
    · rw [← same, core]
      congr 1
      rw [List.takeWhile_append]
      split
      · next long =>
        have all : (trimStart type).takeWhile (· != ',') = trimStart type :=
          (List.takeWhile_sublist _).eq_of_length long
        rw [all]
        simp
      · rfl

theorem leadingQuotes_core {type : List Char} (start : (trimStart type).head? ≠ some '"') :
    leadingQuotes (core type) = 0 := by
  have solid := head_trimStart type
  unfold core
  cases trimmed : trimStart type with
  | nil => rfl
  | cons c rest =>
    rw [trimmed] at start solid
    by_cases comma : c = ','
    · simp [comma, trimEnd, leadingQuotes]
    · rw [List.takeWhile_cons_of_pos (by simpa using comma), trimEnd_cons (by simpa using solid)]
      exact leadingQuotes_cons_other (by simpa using solid) (by simpa using start) _

/-- A row with fields is its type, a comma, and something that has no other characters than the fields
and the marks around them. -/
theorem write_eq {rule : Rule} (some : rule.fields ≠ []) :
    ∃ rest, Row.write rule = rule.type.toList ++ ',' :: rest ∧
      ∀ c ∈ rest, c ∈ [',', ' ', '"'] ∨ ∃ field ∈ rule.fields, c ∈ field.toList := by
  have marked : ∀ c ∈ rule.fields.flatMap fun field => ',' :: ' ' :: writeField field.toList,
      c ∈ [',', ' ', '"'] ∨ ∃ field ∈ rule.fields, c ∈ field.toList := by
    intro c inside
    obtain ⟨field, stored, here⟩ := List.mem_flatMap.1 inside
    rw [List.mem_cons, List.mem_cons] at here
    rcases here with rfl | rfl | written
    · exact .inl (by decide)
    · exact .inl (by decide)
    · unfold writeField at written
      split at written
      · rw [List.mem_cons, List.mem_append, mem_doubleQuotes, List.mem_singleton] at written
        rcases written with rfl | old | rfl
        · exact .inl (by decide)
        · exact .inr ⟨field, stored, old⟩
        · exact .inl (by decide)
      · exact .inr ⟨field, stored, written⟩
  obtain ⟨field, more, same⟩ := List.exists_cons_of_ne_nil some
  refine ⟨' ' :: writeField field.toList ++ more.flatMap fun field =>
    ',' :: ' ' :: writeField field.toList, ?_, ?_⟩
  · rw [Row.write, same, List.flatMap_cons, List.cons_append]
  · intro c inside
    apply marked
    rw [same, List.flatMap_cons, List.cons_append]
    exact List.mem_cons_of_mem _ inside

/-- A row with unbroken fields is one line, if its type is. -/
theorem write_unbroken {rule : Rule} (some : rule.fields ≠ []) (type : '\n' ∉ rule.type.toList)
    (fields : ∀ field ∈ rule.fields, breaksLine field = false) :
    '\n' ∉ Row.write rule ∧ (Row.write rule).getLast? ≠ Option.some '\r' := by
  obtain ⟨rest, row, marked⟩ := write_eq some
  have whole : ∀ c, c = '\r' ∨ c = '\n' → c ∉ ',' :: rest := by
    intro c breaks inside
    have clean : ∀ field ∈ rule.fields, c ∉ field.toList := by
      intro field stored here
      have unbroken := List.any_eq_false.1 (fields field stored) c here
      rcases breaks with rfl | rfl
      · exact unbroken rfl
      · exact unbroken rfl
    rcases List.mem_cons.1 inside with comma | later
    · rcases breaks with rfl | rfl <;> exact absurd comma (by decide)
    · rcases marked c later with mark | ⟨field, stored, here⟩
      · rcases breaks with rfl | rfl <;> exact absurd mark (by decide)
      · exact clean field stored here
  rw [row]
  constructor
  · rw [List.mem_append, not_or]
    exact ⟨type, whole '\n' (.inr rfl)⟩
  · intro last
    rw [List.getLast?_append_of_ne_nil _ (List.cons_ne_nil _ _)] at last
    exact whole '\r' (.inl rfl) (List.mem_of_getLast? last)

/-- What is read of a row in place of its type: something with fewer leading quotes, or the core. -/
theorem type_of_read {rule other : Rule} (some : rule.fields ≠ [])
    (read : Row.read (Row.write rule) = .ok other) :
    leadingQuotes other.type.toList < leadingQuotes rule.type.toList ∨
      ((trimStart rule.type.toList).head? ≠ Option.some '"' ∧ other.type.toList = core rule.type.toList) := by
  obtain ⟨rest, row, -⟩ := write_eq some
  obtain ⟨cells, named, -⟩ := read_eq_ok.1 read
  obtain ⟨after, first⟩ := readCell_of_readCells cells
  rw [row] at first
  apply readCell_type _ first
  intro none
  exact named (String.toList_eq_nil_iff.1 none)

end Row

end AccessControl
