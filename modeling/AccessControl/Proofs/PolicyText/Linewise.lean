import AccessControl.Proofs.PolicyText.RoundTrip
import AccessControl.Proofs.Text.LineEnds
/-!
Policy texts line by line. What a text is read as comes from its lines one after another: the rules of the
lines in front of a place come before those behind it, and the first line that is malformed is the one that is
reported, by its number. Lines that hold no rule change nothing but the numbers of those behind them, and it
does not matter how lines end.
-/
namespace AccessControl

/-- The same error on a row of another number. -/
def Error.renumber (change : Nat → Nat) : Error → Error
  | malformedRow row fault => malformedRow (change row) fault
  | error => error

/-- The rules of both sets, those of the other one behind. -/
def RuleSet.append (rules more : RuleSet) : RuleSet :=
  ⟨rules.policies ++ more.policies, rules.groupings ++ more.groupings⟩

theorem RuleSet.append_empty (rules : RuleSet) : rules.append .empty = rules := by
  simp [append, empty]

theorem RuleSet.ofList_append (rules more : List Rule) :
    ofList (rules ++ more) = (ofList rules).append (ofList more) := by
  simp [ofList, append, List.filter_append]

namespace PolicyText
open Text

theorem readLines_append (front back : List (Nat × List Char)) : readLines (front ++ back) =
    readLines front >>= fun rules => (readLines back).map (rules ++ ·) := by
  induction front with
  | nil => exact (congrFun Except.map_id (readLines back)).symm
  | cons first rest ih =>
    obtain ⟨number, raw⟩ := first
    rw [List.cons_append, readLines, readLines]
    split
    · exact ih
    · cases Row.read (trim raw) with
      | error fault => rfl
      | ok rule =>
        simp only [ih]
        cases readLines rest with
        | error error => rfl
        | ok rules => cases readLines back <;> rfl

/-- Only an error tells the numbers of lines. -/
theorem readLines_renumber (change : Nat → Nat) (lines : List (Nat × List Char)) :
    readLines (lines.map fun line => (change line.1, line.2)) =
      (readLines lines).mapError (.renumber change) := by
  induction lines with
  | nil => rfl
  | cons first rest ih =>
    obtain ⟨number, raw⟩ := first
    rw [List.map_cons, readLines, readLines]
    split
    · exact ih
    · cases Row.read (trim raw) with
      | error fault => rfl
      | ok rule =>
        simp only [ih]
        cases readLines rest <;> rfl

/-- Blanks around lines do not count. -/
theorem readLines_congr {one other : List (Nat × List Char)}
    (same : one.map (fun line => (line.1, trim line.2)) = other.map fun line => (line.1, trim line.2)) :
    readLines one = readLines other := by
  induction one generalizing other with
  | nil => rw [List.map_eq_nil_iff.1 same.symm]
  | cons first rest ih =>
    obtain ⟨⟨number, raw⟩, rest', rfl, here, later⟩ := List.map_eq_cons_iff.1 same.symm
    obtain ⟨rfl, trimmed⟩ := Prod.mk.inj here
    rw [readLines, readLines]
    simp only [trimmed, ih later.symm]

/-- Whether a line holds no rule: its first character that is no blank, if it has one, is `#`. -/
def PassedOver (line : List Char) : Prop := ∀ c, line.find? (!isSpace ·) = some c → c = '#'

theorem isSkipped_trim_iff {line : List Char} : isSkipped (trim line) = true ↔ PassedOver line := by
  have first : line.find? (!isSpace ·) = (trimStart line).head? := line.find?_not_eq_head?_dropWhile isSpace
  rw [isSkipped_trim, isSkipped, PassedOver, first]
  cases trimStart line with
  | nil => simp
  | cons c rest => simp

/-- Whether a line should hold a rule, but does not. -/
def IsMalformed (line : List Char) (fault : Row.Fault) : Prop :=
  ¬PassedOver line ∧ Row.read line = .error fault

/-- The line end does not count, nor whether there is one. -/
theorem readLines_line {line ending : List Char} (unbroken : '\n' ∉ line)
    (ends : ending = [] ∨ ending = ['\n']) :
    readLines (numberedLines (line ++ ending)) = readLines [(1, line)] := by
  rcases ends with rfl | rfl
  · rw [List.append_nil]
    by_cases none : line = []
    · subst none
      rfl
    · rw [numberedLines, lines_of_unbroken unbroken none]
      rfl
  · obtain ⟨cut, single, same⟩ := exists_lines_concat unbroken
    rw [numberedLines, single]
    exact readLines_congr (congrArg (fun line => [(1, line)]) (trim_of_cut same).symm)

theorem readLines_singleton_eq_error {line : List Char} {number : Nat} {error : Error} :
    readLines [(number, line)] = .error error ↔
      ∃ fault, IsMalformed line fault ∧ error = .malformedRow number fault := by
  rw [readLines]
  unfold IsMalformed
  simp only [← isSkipped_trim_iff, Row.read_trim]
  cases skipped : isSkipped (trim line) with
  | true => simp [readLines]
  | false =>
    cases Row.read line with
    | error fault => simp [eq_comm]
    | ok rule => simp [readLines, Except.map]

theorem readLines_passed {line : List Char} (passed : PassedOver line) (number : Nat)
    (rest : List (Nat × List Char)) : readLines ((number, line) :: rest) = readLines rest := by
  rw [readLines]
  exact if_pos (isSkipped_trim_iff.2 passed)

theorem readLines_numberedLines_append {front : List Char} (ended : EndsLine front) (back : List Char) :
    readLines (numberedLines (front ++ back)) = readLines (numberedLines front) >>= fun rules =>
      ((readLines (numberedLines back)).mapError (.renumber (· + front.count '\n'))).map (rules ++ ·) := by
  rw [numberedLines_append ended, readLines_append, readLines_renumber (· + front.count '\n')]

/-- What a text is read as, when a line stands in front of it. -/
theorem readLines_numberedLines_cons {line : List Char} (unbroken : '\n' ∉ line) (rest : List Char) :
    readLines (numberedLines ((line ++ ['\n']) ++ rest)) = readLines [(1, line)] >>= fun rules =>
      ((readLines (numberedLines rest)).mapError (.renumber (· + 1))).map (rules ++ ·) := by
  rw [readLines_numberedLines_append (endsLine_concat line), readLines_line unbroken (.inr rfl),
    count_concat unbroken]

theorem exists_malformed {text : List Char} {error : Error}
    (failed : readLines (numberedLines text) = .error error) :
    ∃ front line back fault, HasLine text front line back ∧
      (∃ rules, readLines (numberedLines front) = .ok rules) ∧ IsMalformed line fault ∧
      error = .malformedRow (front.count '\n' + 1) fault := by
  induction text using line_induction generalizing error with
  | single line unbroken =>
    have alone := readLines_line unbroken (.inl rfl)
    rw [List.append_nil] at alone
    rw [alone] at failed
    obtain ⟨fault, malformed, rfl⟩ := readLines_singleton_eq_error.1 failed
    exact ⟨[], line, [], fault, ⟨by simp, .inl rfl, unbroken, .inl rfl⟩, ⟨[], rfl⟩, malformed, rfl⟩
  | more line rest unbroken ih =>
    rw [readLines_numberedLines_cons unbroken, Result.bind_eq_error] at failed
    rcases failed with here | ⟨rules, read, later⟩
    · obtain ⟨fault, malformed, rfl⟩ := readLines_singleton_eq_error.1 here
      exact ⟨[], line, '\n' :: rest, fault, ⟨by simp, .inl rfl, unbroken, .inr rfl⟩, ⟨[], rfl⟩, malformed, rfl⟩
    · obtain ⟨cause, failed', rfl⟩ := Result.mapError_eq_error.1 (Result.map_eq_error.1 later)
      obtain ⟨front, line', back, fault, has, ⟨more, read'⟩, malformed, rfl⟩ := ih failed'
      refine ⟨(line ++ ['\n']) ++ front, line', back, fault, has.behind (endsLine_concat line),
        ⟨rules ++ more, ?_⟩, malformed, ?_⟩
      · rw [readLines_numberedLines_cons unbroken, read, read']
        rfl
      · rw [List.count_append, count_concat unbroken, Nat.add_comm 1]
        rfl

theorem readLines_of_malformed {text front line back : List Char} {fault : Row.Fault}
    (has : HasLine text front line back) {rules : List Rule}
    (read : readLines (numberedLines front) = .ok rules) (malformed : IsMalformed line fault) :
    readLines (numberedLines text) = .error (.malformedRow (front.count '\n' + 1) fault) := by
  have single : readLines [(1, line)] = .error (.malformedRow 1 fault) :=
    readLines_singleton_eq_error.2 ⟨fault, malformed, rfl⟩
  have here : readLines (numberedLines (line ++ back)) = .error (.malformedRow 1 fault) := by
    rcases has.stops with rfl | feed
    · rw [readLines_line has.unbroken (.inl rfl), single]
    · obtain ⟨rest, rfl⟩ := List.head?_eq_some_iff.1 feed
      have whole : line ++ '\n' :: rest = (line ++ ['\n']) ++ rest := by simp
      rw [whole, readLines_numberedLines_cons has.unbroken, single]
      rfl
  rw [has.whole, readLines_numberedLines_append has.starts, read, here, Nat.add_comm]
  rfl

/-- A line without a rule changes only the numbers of the lines behind it. -/
theorem readLines_insert {front line : List Char} (ended : EndsLine front) (unbroken : '\n' ∉ line)
    (passed : PassedOver line) (back : List Char) :
    readLines (numberedLines (front ++ ((line ++ ['\n']) ++ back))) =
      (readLines (numberedLines (front ++ back))).mapError (.renumber (numberBehind (front.count '\n'))) := by
  obtain ⟨cut, single, same⟩ := exists_lines_concat unbroken
  have longer : lines (front ++ ((line ++ ['\n']) ++ back)) = lines front ++ cut :: lines back := by
    rw [lines_append_of_endsLine ended, lines_append_of_endsLine (endsLine_concat line), single,
      List.singleton_append]
  obtain ⟨before, after, numbered, renumbered, -⟩ :=
    exists_numberedLines_insert (lines_append_of_endsLine ended back) longer
  have passed' : PassedOver cut := by
    rwa [← isSkipped_trim_iff, ← trim_of_cut same, isSkipped_trim_iff]
  rw [length_lines ended] at renumbered
  rw [← readLines_renumber, renumbered, numbered, readLines_append, readLines_append,
    readLines_passed passed']

/-- Carriage returns in front of line feeds do not count. -/
theorem readLines_withReturns (text : List Char) :
    readLines (numberedLines (withReturns text)) = readLines (numberedLines text) := by
  have numbered (text : List Char) : (numberedLines text).map (fun line => (line.1, trim line.2)) =
      (((lines text).map trim).zipIdx 1).map fun line => (line.2, line.1) := by
    rw [numberedLines, List.zipIdx_map, List.map_map, List.map_map]
    rfl
  apply readLines_congr
  rw [numbered, numbered, map_trim_withReturns]

/-- Two texts, the first of which ends with a line, are read one after the other. -/
theorem read_append {front : String} (ended : EndsLine front.toList) (back : String) :
    read (front ++ back) = read front >>= fun rules =>
      ((read back).mapError (.renumber (· + front.toList.count '\n'))).map rules.append := by
  unfold read
  rw [String.toList_append, readLines_numberedLines_append ended, Result.map_bind]
  cases readLines (numberedLines front.toList) with
  | error error => rfl
  | ok rules =>
    cases readLines (numberedLines back.toList) with
    | error error => rfl
    | ok more => exact congrArg Except.ok (RuleSet.ofList_append rules more)

theorem read_insert {front line : String} (ended : EndsLine front.toList) (unbroken : '\n' ∉ line.toList)
    (passed : PassedOver line.toList) (back : String) : read (front ++ (line ++ "\n" ++ back)) =
      (read (front ++ back)).mapError (.renumber (numberBehind (front.toList.count '\n'))) := by
  have feed : "\n".toList = ['\n'] := rfl
  unfold read
  simp only [String.toList_append, feed]
  rw [readLines_insert ended unbroken passed, Result.map_mapError]

theorem read_passed {line : String} (unbroken : '\n' ∉ line.toList) (passed : PassedOver line.toList) :
    read line = .ok .empty := by
  have single := readLines_line unbroken (.inl rfl)
  rw [List.append_nil] at single
  rw [read, single, readLines_passed passed]
  rfl

/-- The error of a text is that of its first malformed line. -/
theorem read_eq_error_iff {text : String} {error : Error} : read text = .error error ↔
    ∃ (front line back : String) (fault : Row.Fault),
      HasLine text.toList front.toList line.toList back.toList ∧ (∃ rules, read front = .ok rules) ∧
      IsMalformed line.toList fault ∧ error = .malformedRow (front.toList.count '\n' + 1) fault := by
  have failed (text : String) : read text = .error error ↔
      readLines (numberedLines text.toList) = .error error := Result.map_eq_error
  have succeeds (text : String) : (∃ rules, read text = .ok rules) ↔
      ∃ rules, readLines (numberedLines text.toList) = .ok rules := by
    simp [read, Result.map_eq_ok]
  simp only [failed, succeeds]
  constructor
  · intro ends
    obtain ⟨front, line, back, fault, has, here, malformed, same⟩ := exists_malformed ends
    refine ⟨String.ofList front, String.ofList line, String.ofList back, fault, ?_⟩
    simp only [String.toList_ofList]
    exact ⟨has, here, malformed, same⟩
  · rintro ⟨front, line, back, fault, has, ⟨rules, here⟩, malformed, rfl⟩
    exact readLines_of_malformed has here malformed

/-- A policy text is read line by line. Where a text that ends with a line is put in front of another, its
error is that of both texts; if it has none, its rules come before those of the other, or the error of the
other is on a row that is further down by as many lines as there are in front. So a blank line or a comment
changes nothing but the rows behind it, carriage returns in front of line feeds do not count, and the row that
is reported is that of the first malformed line. -/
theorem read_linewise :
    (∀ front back : String, EndsLine front.toList →
      (∀ error, read front = .error error → read (front ++ back) = .error error) ∧
      (∀ rules more, read front = .ok rules → read back = .ok more → read (front ++ back) =
        .ok ⟨rules.policies ++ more.policies, rules.groupings ++ more.groupings⟩) ∧
      ∀ rules row fault, read front = .ok rules → read back = .error (.malformedRow row fault) →
        read (front ++ back) = .error (.malformedRow (row + front.toList.count '\n') fault)) ∧
    (∀ front line : String, EndsLine front.toList → '\n' ∉ line.toList → PassedOver line.toList →
      (∀ back : String, read (front ++ (line ++ "\n" ++ back)) =
        (read (front ++ back)).mapError (.renumber (numberBehind (front.toList.count '\n')))) ∧
      read (front ++ line) = read front) ∧
    (∀ text : String, read (String.ofList (withReturns text.toList)) = read text) ∧
    ∀ (text : String) (error : Error), read text = .error error ↔
      ∃ (front line back : String) (fault : Row.Fault),
        HasLine text.toList front.toList line.toList back.toList ∧ (∃ rules, read front = .ok rules) ∧
        IsMalformed line.toList fault ∧ error = .malformedRow (front.toList.count '\n' + 1) fault := by
  refine ⟨fun front back ended => ?_, fun front line ended unbroken passed => ?_, fun text => ?_,
    fun text error => ?_⟩
  · have both := read_append ended back
    refine ⟨fun error failed => ?_, fun rules more here there => ?_, fun rules row fault here there => ?_⟩
    · rw [both, failed]
      rfl
    · rw [both, here, there]
      rfl
    · rw [both, here, there]
      rfl
  · refine ⟨read_insert ended unbroken passed, ?_⟩
    rw [read_append ended, read_passed unbroken passed]
    cases read front with
    | error error => rfl
    | ok rules => exact congrArg Except.ok rules.append_empty
  · rw [read, String.toList_ofList, readLines_withReturns]
    rfl
  · exact read_eq_error_iff

/-- Behind a rule and a link comes a row that is not closed, with a comment in front of it and without. -/
theorem read_linewise_of_comment :
    EndsLine "p, alice, read\r\ng, alice, admin\n".toList ∧ PassedOver " # users\r".toList ∧
      read ("p, alice, read\r\ng, alice, admin\n" ++ "p, \"open") =
        .error (.malformedRow 3 .unterminatedQuote) ∧
      read ("p, alice, read\r\ng, alice, admin\n" ++ (" # users\r" ++ "\n" ++ "p, \"open")) =
        .error (.malformedRow 4 .unterminatedQuote) := by
  have ended : EndsLine "p, alice, read\r\ng, alice, admin\n".toList := .inr (by decide)
  have passed : PassedOver " # users\r".toList := by
    intro c first
    exact (Option.some.inj first).symm
  have front : read "p, alice, read\r\ng, alice, admin\n" =
      .ok ⟨[⟨"p", ["alice", "read"]⟩], [⟨"g", ["alice", "admin"]⟩]⟩ := by cbv
  have back : read "p, \"open" = .error (.malformedRow 1 .unterminatedQuote) := by cbv
  have both : read ("p, alice, read\r\ng, alice, admin\n" ++ "p, \"open") =
      .error (.malformedRow 3 .unterminatedQuote) := (read_linewise.1 _ _ ended).2.2 _ _ _ front back
  refine ⟨ended, passed, both, ?_⟩
  rw [(read_linewise.2.1 _ _ ended (by decide) passed).1, both]
  rfl

end PolicyText
end AccessControl
