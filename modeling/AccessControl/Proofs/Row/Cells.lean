import AccessControl.Proofs.Result
import AccessControl.Proofs.Text.Lines
import AccessControl.Row
import Mathlib.Data.List.TakeDrop
import Mathlib.Data.List.TakeWhile
/-!
The cells of a row. A row is read cell by cell: a quoted cell ends at the first quote that is not
doubled, a bare one at the first comma. Blanks around a row do not count.
-/
namespace AccessControl.Row
open Text

/-- The first cell of a text, and what stands after it and its blanks. -/
def readCell (text : List Char) : Except Fault (List Char × List Char) :=
  match trimStart text with
  | '"' :: body =>
    match readQuoted body with
    | none => .error .unterminatedQuote
    | some (value, after) => .ok (value, trimStart after)
  | bare => .ok (trimEnd (bare.takeWhile (· != ',')), bare.dropWhile (· != ','))

/-- The cells of a row from one that has been read on, given what stands after it. -/
def readRest (value : List Char) : List Char → Except Fault (List String)
  | [] => .ok [String.ofList value]
  | ',' :: rest => (readCells rest).map (String.ofList value :: ·)
  | _ => .error .textAfterQuote

theorem readCell_open {text body : List Char} (start : trimStart text = '"' :: body)
    (read : readQuoted body = none) : readCell text = .error .unterminatedQuote := by
  simp only [readCell, start, read]

theorem readCell_quoted {text body value after : List Char} (start : trimStart text = '"' :: body)
    (read : readQuoted body = some (value, after)) :
    readCell text = .ok (value, trimStart after) := by
  simp only [readCell, start, read]

theorem readCell_bare {text : List Char} (start : (trimStart text).head? ≠ some '"') :
    readCell text = .ok (trimEnd ((trimStart text).takeWhile (· != ',')),
      (trimStart text).dropWhile (· != ',')) := by
  unfold readCell
  split
  · next body same => simp [same] at start
  · rfl

theorem readRest_other (value : List Char) {c : Char} (other : c ≠ ',') (rest : List Char) :
    readRest value (c :: rest) = .error .textAfterQuote := by
  unfold readRest
  split
  · next same => cases same
  · next same => exact absurd (List.cons.inj same).1 other
  · rfl

/-- Cells are read one after another. -/
theorem readCells_eq (text : List Char) :
    readCells text = (readCell text).bind fun (value, after) => readRest value after := by
  rw [readCells]
  split
  · next body start =>
    split
    · next read => rw [readCell_open start read]; rfl
    · next value after read =>
      rw [readCell_quoted start read]
      split
      · next done => simp only [Except.bind, done, readRest]
      · next rest more => simp only [Except.bind, more, readRest]
      · next notDone notMore =>
        simp only [Except.bind]
        cases left : trimStart after with
        | nil => exact absurd left notDone
        | cons c rest =>
          rw [readRest_other]
          rintro rfl
          exact notMore rest left
  · next notQuoted =>
    have start : (trimStart text).head? ≠ some '"' := by
      intro first
      obtain ⟨body, same⟩ := List.head?_eq_some_iff.1 first
      exact notQuoted body same
    rw [readCell_bare start]
    simp only [Except.bind]
    split
    · next done => rw [done]; rfl
    · next c rest more =>
      -- A bare cell ends at nothing but a comma.
      have comma : c = ',' := by
        have stop := List.head?_dropWhile_not (· != ',') (trimStart text)
        simpa [more] using stop
      rw [more, comma]
      rfl

theorem readQuoted_doubleQuotes (value after : List Char)
    (ends : after.head? ≠ some '"') : readQuoted (doubleQuotes value ++ '"' :: after) = some (value, after) := by
  induction value with
  | nil =>
    rw [doubleQuotes, List.nil_append, readQuoted]
    intro rest same
    simp [same] at ends
  | cons c rest ih =>
    by_cases quote : c = '"'
    · simp only [doubleQuotes, quote, if_true, List.cons_append, readQuoted, ih, Option.map_some]
    · simp only [doubleQuotes, quote, if_false, List.cons_append]
      rw [readQuoted, ih, Option.map_some]
      · intro _ same
        exact absurd same quote
      · exact quote

/-- A quoted cell is read up to the first quote that is not doubled. -/
theorem readQuoted_eq_some_iff {text value after : List Char} :
    readQuoted text = some (value, after) ↔
      text = doubleQuotes value ++ '"' :: after ∧ after.head? ≠ some '"' := by
  constructor
  · intro read
    fun_induction readQuoted text generalizing value with
    | case1 => cases read
    | case2 rest ih =>
      obtain ⟨⟨inner, left⟩, found, same⟩ := Option.map_eq_some_iff.1 read
      obtain ⟨rfl, rfl⟩ := Prod.mk.inj same
      obtain ⟨whole, ends⟩ := ih found
      exact ⟨by rw [doubleQuotes, if_pos rfl, whole]; rfl, ends⟩
    | case3 rest notDouble =>
      obtain ⟨rfl, rfl⟩ := Prod.mk.inj (Option.some.inj read)
      refine ⟨rfl, ?_⟩
      intro first
      obtain ⟨more, same⟩ := List.head?_eq_some_iff.1 first
      exact notDouble more same
    | case4 c rest notDouble notQuote ih =>
      obtain ⟨⟨inner, left⟩, found, same⟩ := Option.map_eq_some_iff.1 read
      obtain ⟨rfl, rfl⟩ := Prod.mk.inj same
      obtain ⟨whole, ends⟩ := ih found
      exact ⟨by rw [doubleQuotes, if_neg notQuote, whole]; rfl, ends⟩
  · rintro ⟨rfl, ends⟩
    exact readQuoted_doubleQuotes value after ends

/-- What stands at the end of a text, other than a quote, is no part of its quoted cell. -/
theorem readQuoted_append (text : List Char) {c : Char} (other : c ≠ '"') :
    readQuoted (text ++ [c]) = (readQuoted text).map fun (value, after) => (value, after ++ [c]) := by
  cases read : readQuoted text with
  | some found =>
    obtain ⟨value, after⟩ := found
    obtain ⟨rfl, ends⟩ := readQuoted_eq_some_iff.1 read
    rw [Option.map_some, readQuoted_eq_some_iff]
    refine ⟨by simp, ?_⟩
    cases after with
    | nil => simpa using other
    | cons d rest => simpa using ends
  | none =>
    cases longer : readQuoted (text ++ [c]) with
    | none => rfl
    | some found =>
      obtain ⟨value, after⟩ := found
      obtain ⟨whole, ends⟩ := readQuoted_eq_some_iff.1 longer
      -- The last character is behind the closing quote, so that the cell was closed before.
      rcases List.eq_nil_or_concat after with rfl | ⟨front, last, rfl⟩
      · have same := (List.append_inj' whole rfl).2
        exact absurd (List.cons.inj same).1 other
      · have same : text ++ [c] = (doubleQuotes value ++ '"' :: front) ++ [last] := by
          rw [whole]
          simp
        have shorter := List.append_inj_left' same rfl
        have closed : readQuoted text = some (value, front) := by
          rw [readQuoted_eq_some_iff]
          refine ⟨shorter, ?_⟩
          cases front with
          | nil => simp
          | cons d rest => simpa using ends
        rw [read] at closed
        cases closed

/-- A blank at the end of a text adds nothing to its first cell. -/
theorem readCell_append_space (text : List Char) {c : Char} (blank : isSpace c = true) :
    readCell (text ++ [c]) = (readCell text).map fun (value, after) =>
      (value, if after = [] then [] else after ++ [c]) := by
  have notQuote : c ≠ '"' := ne_of_isSpace blank isSpace_quote
  have notComma : c ≠ ',' := ne_of_isSpace blank isSpace_comma
  have longer := trimStart_append_space text blank
  cases start : trimStart text with
  | nil =>
    rw [start, if_pos rfl] at longer
    rw [readCell_bare (by rw [longer]; simp), readCell_bare (by rw [start]; simp), longer, start]
    rfl
  | cons d body =>
    rw [start, if_neg (List.cons_ne_nil d body)] at longer
    by_cases quote : d = '"'
    · rw [quote] at start longer
      cases read : readQuoted body with
      | none =>
        have readLonger : readQuoted (body ++ [c]) = none := by
          rw [readQuoted_append body notQuote, read]
          rfl
        rw [readCell_open start read, readCell_open longer readLonger]
        rfl
      | some found =>
        obtain ⟨value, after⟩ := found
        have readLonger : readQuoted (body ++ [c]) = some (value, after ++ [c]) := by
          rw [readQuoted_append body notQuote, read]
          rfl
        rw [readCell_quoted start read, readCell_quoted longer readLonger,
          trimStart_append_space after blank]
        rfl
    · have bare : (trimStart text).head? ≠ some '"' := by simpa [start] using quote
      have bareLonger : (trimStart (text ++ [c])).head? ≠ some '"' := by simpa [longer] using quote
      rw [readCell_bare bare, readCell_bare bareLonger, longer, start]
      simp only [Except.map, Except.ok.injEq, Prod.mk.injEq]
      have passed : (c != ',') = true := by simpa using notComma
      by_cases done : (d :: body).dropWhile (· != ',') = []
      · have whole : (d :: body).takeWhile (· != ',') = d :: body := by
          have parts := List.takeWhile_append_dropWhile (p := (· != ',')) (l := d :: body)
          rwa [done, List.append_nil] at parts
        have longerCell : trimEnd (d :: body ++ [c]) = trimEnd (d :: body) := trimEnd_append_space blank
        rw [List.takeWhile_append, List.dropWhile_append, done, whole]
        simpa [passed] using longerCell
      · have short : ((d :: body).takeWhile (· != ',')).length ≠ (d :: body).length := by
          have parts := congrArg List.length (List.takeWhile_append_dropWhile (p := (· != ',')) (l := d :: body))
          have some := List.length_pos_iff.2 done
          rw [List.length_append] at parts
          omega
        rw [List.takeWhile_append, List.dropWhile_append, if_neg short]
        simp [done]

theorem mem_doubleQuotes {c : Char} {value : List Char} : c ∈ doubleQuotes value ↔ c ∈ value := by
  induction value with
  | nil => rfl
  | cons d rest ih =>
    by_cases quote : d = '"'
    · simp [doubleQuotes, quote, ih]
    · simp [doubleQuotes, quote, ih]

/-- The first cell of a text has no character that the text does not have. -/
theorem mem_of_readCell {text value after : List Char} (read : readCell text = .ok (value, after))
    {c : Char} (inside : c ∈ value) : c ∈ text := by
  have trimmed : ∀ d ∈ trimStart text, d ∈ text := (List.dropWhile_sublist _).subset
  by_cases start : (trimStart text).head? = some '"'
  · obtain ⟨body, same⟩ := List.head?_eq_some_iff.1 start
    cases inner : readQuoted body with
    | none => simp [readCell_open same inner] at read
    | some found =>
      obtain ⟨content, rest⟩ := found
      rw [readCell_quoted same inner] at read
      obtain ⟨rfl, -⟩ := Prod.mk.inj (Except.ok.inj read)
      obtain ⟨rfl, -⟩ := readQuoted_eq_some_iff.1 inner
      apply trimmed
      rw [same]
      simp [mem_doubleQuotes, inside]
  · rw [readCell_bare start] at read
    obtain ⟨rfl, -⟩ := Prod.mk.inj (Except.ok.inj read)
    exact trimmed c ((List.takeWhile_sublist _).subset ((trimEnd_sublist _).subset inside))

theorem length_of_readCell {text value after : List Char} (read : readCell text = .ok (value, after)) :
    after.length ≤ text.length := by
  have trimmed := length_trimStart_le text
  by_cases start : (trimStart text).head? = some '"'
  · obtain ⟨body, same⟩ := List.head?_eq_some_iff.1 start
    cases inner : readQuoted body with
    | none => simp [readCell_open same inner] at read
    | some found =>
      obtain ⟨content, rest⟩ := found
      rw [readCell_quoted same inner] at read
      obtain ⟨-, rfl⟩ := Prod.mk.inj (Except.ok.inj read)
      have shorter := length_of_readQuoted inner
      have last := length_trimStart_le rest
      simp only [same, List.length_cons] at trimmed
      omega
  · rw [readCell_bare start] at read
    obtain ⟨-, rfl⟩ := Prod.mk.inj (Except.ok.inj read)
    exact Nat.le_trans (List.dropWhile_sublist _).length_le trimmed

theorem readCells_append_space (text : List Char) {c : Char} (blank : isSpace c = true) :
    readCells (text ++ [c]) = readCells text := by
  rw [readCells_eq, readCells_eq text, readCell_append_space text blank]
  cases first : readCell text with
  | error fault => rfl
  | ok found =>
    obtain ⟨value, after⟩ := found
    simp only [Except.map, Except.bind]
    cases after with
    | nil => rfl
    | cons d rest =>
      rw [if_neg (List.cons_ne_nil d rest)]
      by_cases comma : d = ','
      · subst comma
        have shorter : rest.length < text.length := length_of_readCell first
        simp only [List.cons_append, readRest]
        rw [readCells_append_space rest blank]
      · rw [List.cons_append, readRest_other value comma, readRest_other value comma]
termination_by text.length

/-- Blanks around a text of cells do not count. -/
theorem readCells_trimEnd (text : List Char) : readCells (trimEnd text) = readCells text := by
  induction text using List.reverseRecOn with
  | nil => rfl
  | append_singleton text c ih =>
    cases blank : isSpace c with
    | true => rw [trimEnd_append_space blank, ih, readCells_append_space text blank]
    | false => rw [trimEnd_append blank]

theorem readCells_trimStart (text : List Char) : readCells (trimStart text) = readCells text := by
  rw [readCells_eq, readCells_eq text]
  simp only [readCell, trimStart_trimStart]

theorem read_trim (line : List Char) : Row.read (trim line) = Row.read line := by
  simp only [Row.read, trim, readCells_trimEnd, readCells_trimStart]

/-- The first of the cells that a text is read as. -/
theorem readCell_of_readCells {text : List Char} {value : String} {cells : List String}
    (read : readCells text = .ok (value :: cells)) : ∃ after, readCell text = .ok (value.toList, after) := by
  rw [readCells_eq] at read
  cases first : readCell text with
  | error fault =>
    rw [first] at read
    cases read
  | ok found =>
    obtain ⟨content, after⟩ := found
    rw [first] at read
    simp only [Except.bind] at read
    refine ⟨after, ?_⟩
    suffices same : String.ofList content = value by rw [← same, String.toList_ofList]
    unfold readRest at read
    split at read
    · exact (List.cons.inj (Except.ok.inj read)).1
    · obtain ⟨_, -, whole⟩ := Result.map_eq_ok.1 read
      exact (List.cons.inj whole).1
    · cases read

/-- A row is a rule when its first cell is not empty and there is another one. -/
theorem read_eq_ok {line : List Char} {rule : Rule} :
    Row.read line = .ok rule ↔
      readCells line = .ok (rule.type :: rule.fields) ∧ rule.type ≠ "" ∧ rule.fields ≠ [] := by
  unfold Row.read
  rw [Result.bind_eq_ok]
  constructor
  · rintro ⟨cells, read, whole⟩
    split at whole
    · cases whole
    · cases whole
    · cases whole
    · next type fields notMissing notAlone =>
      cases whole
      exact ⟨read, notMissing, notAlone⟩
  · rintro ⟨read, named, some⟩
    refine ⟨_, read, ?_⟩
    split
    · next none => cases none
    · next missing => exact absurd (List.cons.inj missing).1 named
    · next alone => exact absurd (List.cons.inj alone).2 some
    · next same => cases same; rfl

end AccessControl.Row
