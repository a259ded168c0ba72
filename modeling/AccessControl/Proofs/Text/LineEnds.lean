import AccessControl.Proofs.Text.Padding
/-!
Line ends. Where a text ends with a line, the lines of whatever is put behind it come after its own, and there
are as many of these as there are line feeds in the text. A carriage return that is put in front of a line
feed leaves the lines as they were, up to a carriage return at their ends.
-/
namespace AccessControl.Text

/-- Whether a text stops where a line does, so that whatever is put behind it starts a line. -/
def EndsLine (text : List Char) : Prop := text = [] ∨ text.getLast? = some '\n'

theorem endsLine_concat (text : List Char) : EndsLine (text ++ ['\n']) := .inr List.getLast?_concat

theorem count_concat {line : List Char} (unbroken : '\n' ∉ line) : (line ++ ['\n']).count '\n' = 1 := by
  rw [List.count_append, List.count_eq_zero.2 unbroken]
  rfl

theorem not_endsLine_singleton {c : Char} (notFeed : c ≠ '\n') : ¬EndsLine [c] := by
  rintro (none | last)
  · cases none
  · exact notFeed (Option.some.inj last)

theorem EndsLine.tail {c : Char} {rest : List Char} (ended : EndsLine (c :: rest)) : EndsLine rest := by
  cases rest with
  | nil => exact .inl rfl
  | cons d rest => exact .inr (by simpa using ended.resolve_left (List.cons_ne_nil c _))

theorem EndsLine.append {front back : List Char} (ended : EndsLine front) (ended' : EndsLine back) :
    EndsLine (front ++ back) := by
  rcases ended' with rfl | last
  · rwa [List.append_nil]
  · exact .inr (by rw [List.getLast?_append, last]; rfl)

theorem lines_eq_nil_iff {text : List Char} : lines text = [] ↔ text = [] := by
  fun_cases lines text <;> simp_all

/-- A character that is no part of a line end belongs to the first line. -/
theorem lines_cons {c : Char} {rest : List Char} (notFeed : c ≠ '\n')
    (notReturn : c = '\r' → rest.head? ≠ some '\n') {line : List Char} {later : List (List Char)}
    (parted : lines rest = line :: later) : lines (c :: rest) = (c :: line) :: later := by
  rw [lines, parted]
  · exact fun same => notFeed same
  · rintro after rfl rfl
    exact notReturn rfl rfl

/-- Behind the end of a line the lines of a text are those of what stands there. -/
theorem lines_append_of_endsLine {front : List Char} (ended : EndsLine front) (back : List Char) :
    lines (front ++ back) = lines front ++ lines back := by
  fun_induction lines front with
  | case1 => rfl
  | case2 rest ih => rw [List.cons_append, lines_lineFeed, ih ended.tail, List.cons_append]
  | case3 rest ih =>
    rw [List.cons_append, List.cons_append, lines, ih ended.tail.tail, List.cons_append]
  | case4 c rest notFeed _ none =>
    rw [lines_eq_nil_iff.1 none] at ended
    exact absurd ended (not_endsLine_singleton notFeed)
  | case5 c rest notFeed notReturn line later parted ih =>
    have whole := ih ended.tail
    rw [parted, List.cons_append] at whole
    rw [List.cons_append, lines_cons notFeed _ whole, List.cons_append]
    rintro rfl
    cases rest with
    | nil => cases parted
    | cons d rest =>
      intro feed
      exact notReturn rest rfl (congrArg (· :: rest) (Option.some.inj feed))

/-- A text that ends with a line has as many lines as line feeds. -/
theorem length_lines {text : List Char} (ended : EndsLine text) : (lines text).length = text.count '\n' := by
  fun_induction lines text with
  | case1 => rfl
  | case2 rest ih => rw [List.length_cons, ih ended.tail, List.count_cons_self]
  | case3 rest ih =>
    rw [List.length_cons, ih ended.tail.tail, List.count_cons_of_ne (by decide), List.count_cons_self]
  | case4 c rest notFeed _ none =>
    rw [lines_eq_nil_iff.1 none] at ended
    exact absurd ended (not_endsLine_singleton notFeed)
  | case5 c rest notFeed _ line later parted ih =>
    rw [List.count_cons_of_ne notFeed, ← ih ended.tail, parted, List.length_cons, List.length_cons]

theorem numberedLines_append {front : List Char} (ended : EndsLine front) (back : List Char) :
    numberedLines (front ++ back) = numberedLines front ++
      (numberedLines back).map fun line => (line.1 + front.count '\n', line.2) := by
  unfold numberedLines
  rw [lines_append_of_endsLine ended, List.zipIdx_append, List.map_append, length_lines ended,
    Nat.add_comm 1, ← List.map_snd_add_zipIdx_eq_zipIdx, List.map_map, List.map_map]
  rfl

theorem lines_singleton {c : Char} (notFeed : c ≠ '\n') : lines [c] = [[c]] := by
  rw [lines, lines]
  · exact fun same => notFeed same
  · intro after _ same
    cases same

/-- Without a line feed a text is one line. -/
theorem lines_of_unbroken {line : List Char} (unbroken : '\n' ∉ line) (some : line ≠ []) :
    lines line = [line] := by
  induction line with
  | nil => exact absurd rfl some
  | cons c rest ih =>
    obtain ⟨other, later⟩ := not_or.1 (mt List.mem_cons.2 unbroken)
    cases rest with
    | nil => exact lines_singleton (Ne.symm other)
    | cons d rest =>
      apply lines_cons (Ne.symm other) _ (ih later (List.cons_ne_nil d rest))
      intro _ first
      exact later (List.mem_of_head? first)

/-- A line with its end is one line, which does not have a carriage return that belongs to the end. -/
theorem exists_lines_concat {line : List Char} (unbroken : '\n' ∉ line) :
    ∃ cut, lines (line ++ ['\n']) = [cut] ∧ (line = cut ∨ line = cut ++ ['\r']) := by
  by_cases returned : line.getLast? = some '\r'
  · obtain ⟨cut, rfl⟩ := List.getLast?_eq_some_iff.1 returned
    have within : '\n' ∉ cut := fun inside => unbroken (List.mem_append_left _ inside)
    refine ⟨cut, ?_, .inr rfl⟩
    rw [List.append_assoc]
    exact lines_append_return within []
  · exact ⟨line, lines_append unbroken returned [], .inl rfl⟩

theorem trim_of_cut {line cut : List Char} (same : line = cut ∨ line = cut ++ ['\r']) :
    trim line = trim cut := by
  rcases same with rfl | rfl
  · rfl
  · exact trim_append_return cut

/-- A text is one line, or it is one with its end and another text behind. -/
@[elab_as_elim]
theorem line_induction {motive : List Char → Prop} (single : ∀ line, '\n' ∉ line → motive line)
    (more : ∀ line rest, '\n' ∉ line → motive rest → motive ((line ++ ['\n']) ++ rest))
    (text : List Char) : motive text := by
  induction size : text.length using Nat.strong_induction_on generalizing text with
  | _ size ih =>
    by_cases feed : '\n' ∈ text
    · obtain ⟨line, rest, rfl, unbroken⟩ := List.eq_append_cons_of_mem feed
      rw [List.length_append, List.length_cons] at size
      have whole : line ++ '\n' :: rest = (line ++ ['\n']) ++ rest := by simp
      rw [whole]
      exact more line rest unbroken (ih rest.length (by omega) rest rfl)
    · exact single text feed

/-- A text has a line, whatever its end is, with something in front of it and something behind. -/
structure HasLine (text front line back : List Char) : Prop where
  whole : text = front ++ (line ++ back)
  starts : EndsLine front
  unbroken : '\n' ∉ line
  stops : back = [] ∨ back.head? = some '\n'

theorem HasLine.behind {text front line back : List Char} (has : HasLine text front line back)
    {before : List Char} (ended : EndsLine before) : HasLine (before ++ text) (before ++ front) line back :=
  ⟨by rw [has.whole, List.append_assoc], ended.append has.starts, has.unbroken, has.stops⟩

/-- The text with a carriage return in front of every line feed. -/
def withReturns (text : List Char) : List Char :=
  text.flatMap fun c => if c = '\n' then ['\r', '\n'] else [c]

theorem withReturns_cons {c : Char} (notFeed : c ≠ '\n') (rest : List Char) :
    withReturns (c :: rest) = c :: withReturns rest := by
  unfold withReturns
  rw [List.flatMap_cons, if_neg notFeed]
  rfl

theorem head_withReturns (text : List Char) : (withReturns text).head? ≠ some '\n' := by
  cases text with
  | nil => nofun
  | cons c rest =>
    by_cases feed : c = '\n'
    · subst feed
      exact nofun
    · rw [withReturns_cons feed]
      simpa using feed

/-- With the carriage returns the lines are the same, but some may end with another carriage return. -/
theorem forall₂_lines_withReturns (text : List Char) :
    List.Forall₂ (fun line returned => returned = line ∨ returned = line ++ ['\r']) (lines text)
      (lines (withReturns text)) := by
  fun_induction lines text with
  | case1 => exact .nil
  | case2 rest ih => exact .cons (.inl rfl) ih
  | case3 rest ih => exact .cons (.inr rfl) ih
  | case4 c rest notFeed _ none ih =>
    have single : lines (c :: withReturns []) = [[c]] := lines_singleton notFeed
    rw [lines_eq_nil_iff.1 none, withReturns_cons notFeed, single]
    exact .cons (.inl rfl) .nil
  | case5 c rest notFeed _ line later parted ih =>
    rw [parted] at ih
    obtain ⟨line', later', same, others, whole⟩ := List.forall₂_cons_left_iff.1 ih
    rw [withReturns_cons notFeed, lines_cons notFeed (fun _ => head_withReturns rest) whole]
    exact .cons (same.imp (congrArg _) (congrArg _)) others

theorem map_trim_withReturns (text : List Char) :
    (lines (withReturns text)).map trim = (lines text).map trim := by
  have related := forall₂_lines_withReturns text
  generalize lines text = whole, lines (withReturns text) = returned at related ⊢
  induction related with
  | nil => rfl
  | cons same _ ih => rw [List.map_cons, List.map_cons, ih, trim_of_cut same]

end AccessControl.Text
