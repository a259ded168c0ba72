import AccessControl.Text.Layout
import Mathlib.Data.List.Induction
/-!
Lines and blanks. A line that holds no line feed and does not end with a carriage return is cut off
again from whatever stands after its line end. Trimming drops nothing but blanks, and what stands
behind a text that is not blank is left alone when the text is trimmed in front.
-/
namespace AccessControl.Text

theorem lines_append {line : List Char} (unbroken : '\n' ∉ line) (last : line.getLast? ≠ some '\r')
    (rest : List Char) : lines (line ++ '\n' :: rest) = line :: lines rest := by
  induction line with
  | nil => exact lines_lineFeed rest
  | cons c tail ih =>
    rw [List.mem_cons, not_or] at unbroken
    obtain ⟨other, later⟩ := unbroken
    cases tail with
    | nil =>
      -- The line is one character, which ends it only if it is a carriage return.
      have solid : c ≠ '\r' := by simpa using last
      rw [List.singleton_append, lines, lines_lineFeed]
      · exact fun same => other same.symm
      · intro after same
        exact absurd same solid
    | cons d tail =>
      have whole := ih later (by simpa using last)
      have inner : d ≠ '\n' := fun same => later (same ▸ List.mem_cons_self)
      rw [List.cons_append, lines, whole]
      · exact fun same => other same.symm
      · intro after _ same
        exact inner (List.cons.inj same).1

/-- With a carriage return and a line feed behind it, every line is cut off again. -/
theorem lines_append_return {line : List Char} (unbroken : '\n' ∉ line) (rest : List Char) :
    lines (line ++ '\r' :: '\n' :: rest) = line :: lines rest := by
  induction line with
  | nil =>
    rw [List.nil_append, lines]
  | cons c tail ih =>
    rw [List.mem_cons, not_or] at unbroken
    rw [List.cons_append, lines, ih unbroken.2]
    · exact fun same => unbroken.1 same.symm
    · intro after _ same
      cases tail with
      | nil => cases same
      | cons d tail => exact unbroken.2 ((List.cons.inj same).1 ▸ List.mem_cons_self)

/-- Some lines without line feeds are those of a text. -/
theorem exists_lines_eq {whole : List (List Char)} (unbroken : ∀ line ∈ whole, '\n' ∉ line) :
    ∃ text, lines text = whole := by
  induction whole with
  | nil => exact ⟨[], rfl⟩
  | cons line rest ih =>
    rw [List.forall_mem_cons] at unbroken
    obtain ⟨text, same⟩ := ih unbroken.2
    exact ⟨line ++ '\r' :: '\n' :: text, by rw [lines_append_return unbroken.1, same]⟩

theorem not_mem_of_mem_lines {text line : List Char} (found : line ∈ lines text) : '\n' ∉ line := by
  fun_induction lines text generalizing line with
  | case1 => simp at found
  | case2 rest ih =>
    rcases List.mem_cons.1 found with rfl | later
    · exact List.not_mem_nil
    · exact ih later
  | case3 rest ih =>
    rcases List.mem_cons.1 found with rfl | later
    · exact List.not_mem_nil
    · exact ih later
  | case4 c rest notFeed notReturn none ih =>
    rw [List.mem_singleton.1 found, List.mem_singleton]
    exact fun same => notFeed same.symm
  | case5 c rest notFeed notReturn first later whole ih =>
    rw [whole] at ih
    rcases List.mem_cons.1 found with rfl | after
    · rw [List.mem_cons, not_or]
      exact ⟨fun same => notFeed same.symm, ih List.mem_cons_self⟩
    · exact ih (List.mem_cons_of_mem _ after)

theorem map_numberedLines (text : List Char) : (numberedLines text).map (·.2) = lines text := by
  unfold numberedLines
  rw [List.map_map]
  exact List.zipIdx_map_fst 1 (lines text)

theorem mem_lines_of_mem_numberedLines {text : List Char} {line : Nat × List Char}
    (found : line ∈ numberedLines text) : line.2 ∈ lines text := by
  rw [← map_numberedLines]
  exact List.mem_map_of_mem found

/-- The number of a line when there is one more line behind the first `count`. -/
def numberBehind (count number : Nat) : Nat := if number ≤ count then number else number + 1

/-- With one more line, the lines behind it have the next numbers. -/
theorem exists_numberedLines_insert {text longer : List Char} {front back : List (List Char)}
    {line : List Char} (whole : lines text = front ++ back) (inserted : lines longer = front ++ line :: back) :
    ∃ before after, numberedLines longer = before ++ (front.length + 1, line) :: after ∧
      (numberedLines text).map (fun line => (numberBehind front.length line.1, line.2)) = before ++ after ∧
      before.map (·.2) = front := by
  have numbered (text : List Char) :
      numberedLines text = ((lines text).zipIdx 1).map fun line => (line.2, line.1) := rfl
  refine ⟨(front.zipIdx 1).map fun line => (line.2, line.1),
    (back.zipIdx (1 + front.length + 1)).map fun line => (line.2, line.1), ?_, ?_, ?_⟩
  · rw [numbered, inserted, List.zipIdx_append, List.zipIdx_cons, List.map_append, List.map_cons,
      Nat.add_comm 1]
  · rw [numbered, whole, List.zipIdx_append, List.map_append, List.map_append, List.map_map,
      List.map_map, List.zipIdx_succ (l := back) (i := 1 + front.length), List.map_map]
    congr 1
    · refine List.map_congr_left fun line inside => ?_
      have bound := List.snd_lt_of_mem_zipIdx inside
      simp only [Function.comp_apply, numberBehind]
      rw [if_pos (by omega)]
    · refine List.map_congr_left fun line inside => ?_
      have bound := List.le_snd_of_mem_zipIdx inside
      simp only [Function.comp_apply, numberBehind]
      rw [if_neg (by omega)]
  · rw [List.map_map]
    exact List.zipIdx_map_fst 1 front

theorem isSpace_comma : isSpace ',' = false := by decide

theorem isSpace_quote : isSpace '"' = false := by decide

theorem isSpace_alphanum {c : Char} (letter : c.isAlphanum = true) : isSpace c = false := by
  unfold Char.isAlphanum Char.isAlpha Char.isUpper Char.isLower Char.isDigit at letter
  unfold isSpace
  generalize c.val = code at letter
  simp [UInt32.le_iff_toNat_le, ← UInt32.toNat_inj] at letter ⊢
  omega

theorem isSpace_digit {c : Char} (digit : c.isDigit = true) : isSpace c = false :=
  isSpace_alphanum (by rw [Char.isAlphanum, digit, Bool.or_true])

theorem trimStart_of_head {text : List Char} (solid : text.head?.any isSpace = false) :
    trimStart text = text := by
  cases text with
  | nil => rfl
  | cons c rest => exact trimStart_cons (by simpa using solid)

theorem trimEnd_of_getLast {text : List Char} (solid : text.getLast?.any isSpace = false) :
    trimEnd text = text := by
  rw [trimEnd, ← trimStart, trimStart_of_head, List.reverse_reverse]
  rw [List.head?_reverse]
  exact solid

theorem trimEnd_sublist (text : List Char) : (trimEnd text).Sublist text := by
  rw [trimEnd, ← List.reverse_sublist, List.reverse_reverse]
  exact List.dropWhile_sublist _

theorem head_trimStart (text : List Char) : (trimStart text).head?.any isSpace = false := by
  induction text with
  | nil => rfl
  | cons c rest ih =>
    cases blank : isSpace c with
    | true => rwa [trimStart_cons_space blank]
    | false => simpa [trimStart_cons blank] using blank

theorem trimEnd_singleton {c : Char} (solid : isSpace c = false) : trimEnd [c] = [c] := by
  simp [trimEnd, solid]

theorem trimEnd_cons {c : Char} (solid : isSpace c = false) (rest : List Char) :
    trimEnd (c :: rest) = c :: trimEnd rest := by
  induction rest using List.reverseRecOn with
  | nil => exact trimEnd_singleton solid
  | append_singleton rest d ih =>
    rw [← List.cons_append]
    cases blank : isSpace d with
    | true => rw [trimEnd_append_space blank, trimEnd_append_space blank, ih]
    | false => rw [trimEnd_append blank, trimEnd_append blank, List.cons_append]

/-- Blanks at the end do not change where a text starts. -/
theorem head_trim (text : List Char) : (trim text).head? = (trimStart text).head? := by
  have solid := head_trimStart text
  rw [trim]
  cases start : trimStart text with
  | nil => rfl
  | cons c rest =>
    rw [start] at solid
    rw [trimEnd_cons (by simpa using solid)]
    rfl

theorem getLast_trimEnd (text : List Char) : (trimEnd text).getLast?.any isSpace = false := by
  rw [trimEnd, List.getLast?_reverse]
  exact head_trimStart text.reverse

theorem trimStart_append {text : List Char} (solid : trimStart text ≠ []) (more : List Char) :
    trimStart (text ++ more) = trimStart text ++ more := by
  induction text with
  | nil => exact absurd rfl solid
  | cons c rest ih =>
    cases blank : isSpace c with
    | true =>
      rw [trimStart_cons_space blank] at solid ⊢
      rw [List.cons_append, trimStart_cons_space blank]
      exact ih solid
    | false => rw [List.cons_append, trimStart_cons blank, trimStart_cons blank, List.cons_append]

theorem trimStart_append_of_blank {text : List Char} (blank : trimStart text = []) (more : List Char) :
    trimStart (text ++ more) = trimStart more := by
  induction text with
  | nil => rfl
  | cons c rest ih =>
    cases space : isSpace c with
    | true =>
      rw [trimStart_cons_space space] at blank
      rw [List.cons_append, trimStart_cons_space space]
      exact ih blank
    | false =>
      rw [trimStart_cons space] at blank
      cases blank

theorem trimStart_trimStart (text : List Char) : trimStart (trimStart text) = trimStart text :=
  trimStart_of_head (head_trimStart text)

theorem trimStart_append_space (text : List Char) {c : Char} (blank : isSpace c = true) :
    trimStart (text ++ [c]) = if trimStart text = [] then [] else trimStart text ++ [c] := by
  by_cases none : trimStart text = []
  · rw [if_pos none, trimStart_append_of_blank none, trimStart_cons_space blank]
    rfl
  · rw [if_neg none, trimStart_append none]

theorem ne_of_isSpace {c d : Char} (blank : isSpace c = true) (solid : isSpace d = false) : c ≠ d := by
  intro same
  rw [same, solid] at blank
  cases blank

end AccessControl.Text
