import AccessControl.Proofs.Text.Lines
import Mathlib.Data.List.Forall2
import Mathlib.Data.List.TakeWhile
/-!
Texts with blanks around them, and lists of such texts with commas between them. Trimming a padded text
gives what was padded; trimming a list takes the outer blanks of its first and its last item and leaves a
list of the same items.
-/
namespace AccessControl.Text

/-- A text without outer blanks. -/
structure Trimmed (text : List Char) : Prop where
  front : text.head?.any isSpace = false
  back : text.getLast?.any isSpace = false

theorem trimmed_trim (text : List Char) : Trimmed (trim text) := by
  constructor
  · rw [head_trim]
    exact head_trimStart text
  · exact getLast_trimEnd _

theorem trim_sublist (text : List Char) : (trim text).Sublist text :=
  (trimEnd_sublist _).trans (List.dropWhile_sublist _)

/-- Trimming drops nothing but blanks. -/
theorem mem_trim {text : List Char} {c : Char} (solid : isSpace c = false) : c ∈ trim text ↔ c ∈ text := by
  have kept {text : List Char} (inside : c ∈ text) : c ∈ text.dropWhile isSpace := by
    rw [← List.takeWhile_append_dropWhile (p := isSpace) (l := text)] at inside
    refine (List.mem_append.1 inside).resolve_left fun dropped => ?_
    exact ne_of_isSpace (List.mem_takeWhile_imp dropped) solid rfl
  refine ⟨fun inside => (trim_sublist text).subset inside, fun inside => ?_⟩
  rw [trim, trimEnd, List.mem_reverse]
  exact kept (List.mem_reverse.2 (kept inside))

theorem solid_of_any {text : List Char} (none : text.any isSpace = false) :
    ∀ c ∈ text, isSpace c = false := by
  intro c inside
  simpa using List.any_eq_false.1 none c inside

theorem trimmed_of_solid {text : List Char} (solid : ∀ c ∈ text, isSpace c = false) : Trimmed text := by
  constructor
  · rw [Option.any_eq_false]
    intro c first
    simpa using solid c (List.mem_of_head? first)
  · rw [Option.any_eq_false]
    intro c last
    simpa using solid c (List.mem_of_getLast? last)

theorem trimStart_append_blank {front : List Char} (blank : ∀ c ∈ front, isSpace c = true)
    (text : List Char) : trimStart (front ++ text) = trimStart text :=
  List.dropWhile_append_of_pos blank

theorem trimEnd_append_blank {back : List Char} (blank : ∀ c ∈ back, isSpace c = true)
    (text : List Char) : trimEnd (text ++ back) = trimEnd text := by
  unfold trimEnd
  rw [List.reverse_append, List.dropWhile_append_of_pos]
  simpa using blank

theorem trimEnd_append_solid {text more : List Char} (solid : trimEnd more ≠ []) :
    trimEnd (text ++ more) = text ++ trimEnd more := by
  have behind : trimStart more.reverse ≠ [] := by simpa [trimEnd, trimStart] using solid
  have turned := trimStart_append behind text.reverse
  unfold trimEnd
  rw [List.reverse_append, ← trimStart, turned, List.reverse_append, List.reverse_reverse]
  rfl

/-- A trimmed text at the end of another stays there when that is trimmed. -/
theorem Trimmed.suffix_trim {core text : List Char} (trimmed : Trimmed core) (some : core ≠ [])
    (ends : core <:+ text) : core <:+ trim text := by
  obtain ⟨front, rfl⟩ := ends
  have start : trimStart core = core := trimStart_of_head trimmed.front
  have finish : trimEnd core = core := trimEnd_of_getLast trimmed.back
  by_cases blank : trimStart front = []
  · have whole : trim (front ++ core) = core := by
      rw [trim, trimStart_append_of_blank blank, start, finish]
    exact whole.symm ▸ List.suffix_rfl
  · rw [trim, trimStart_append blank, trimEnd_append_solid (by rwa [finish]), finish]
    exact List.suffix_append _ _

/-- Every character but the separator is in one of the pieces. -/
theorem exists_mem_splitOn {text : List Char} {separator c : Char} (inside : c ∈ text)
    (other : c ≠ separator) : ∃ piece ∈ text.splitOn separator, c ∈ piece := by
  induction text with
  | nil => cases inside
  | cons d rest ih =>
    obtain ⟨first, later, parted⟩ := List.exists_cons_of_ne_nil (List.splitOn_ne_nil separator rest)
    rw [List.splitOn_cons_eq_if_modifyHead]
    rw [parted] at ih ⊢
    split
    next same =>
      have behind : c ∈ rest :=
        (List.mem_cons.1 inside).resolve_left fun first => other (first.trans (by simpa using same))
      obtain ⟨piece, among, found⟩ := ih behind
      exact ⟨piece, List.mem_cons_of_mem _ among, found⟩
    next =>
      rw [List.modifyHead_cons]
      rcases List.mem_cons.1 inside with rfl | behind
      · exact ⟨_, List.mem_cons_self, List.mem_cons_self⟩
      · obtain ⟨piece, among, found⟩ := ih behind
        rcases List.mem_cons.1 among with rfl | further
        · exact ⟨_, List.mem_cons_self, List.mem_cons_of_mem _ found⟩
        · exact ⟨piece, List.mem_cons_of_mem _ further, found⟩

/-- Cut at its line feeds, a text falls into its lines, some of them with a carriage return left behind
them, and into an empty piece after the last line feed. -/
theorem splitOn_lines (text : List Char) : ∃ pieces,
    (text.splitOn '\n' = pieces ∨ text.splitOn '\n' = pieces ++ [[]]) ∧
      List.Forall₂ (fun piece line => piece = line ∨ piece = line ++ ['\r']) pieces (lines text) := by
  fun_induction lines text with
  | case1 => exact ⟨[], .inr (List.splitOn_nil _), .nil⟩
  | case2 rest ih =>
    obtain ⟨pieces, cut, related⟩ := ih
    refine ⟨[] :: pieces, ?_, .cons (.inl rfl) related⟩
    rw [List.splitOn_cons_eq_if_modifyHead, if_pos (by decide)]
    exact cut.imp (congrArg _) (congrArg _)
  | case3 rest ih =>
    obtain ⟨pieces, cut, related⟩ := ih
    refine ⟨['\r'] :: pieces, ?_, .cons (.inr rfl) related⟩
    rw [List.splitOn_cons_eq_if_modifyHead, if_neg (by decide), List.splitOn_cons_eq_if_modifyHead,
      if_pos (by decide), List.modifyHead_cons]
    exact cut.imp (congrArg _) (congrArg _)
  | case4 c rest notFeed _ none ih =>
    obtain ⟨pieces, cut, related⟩ := ih
    rw [none, List.forall₂_nil_right_iff] at related
    subst related
    have single : rest.splitOn '\n' = [[]] := cut.resolve_left (List.splitOn_ne_nil _ _)
    refine ⟨[[c]], .inl ?_, .cons (.inl rfl) .nil⟩
    rw [List.splitOn_cons_eq_if_modifyHead, if_neg (by simpa using notFeed), single]
    rfl
  | case5 c rest notFeed _ line later whole ih =>
    obtain ⟨pieces, cut, related⟩ := ih
    rw [whole] at related
    obtain ⟨piece, others, ending, related', rfl⟩ := List.forall₂_cons_right_iff.1 related
    refine ⟨(c :: piece) :: others, ?_, .cons (ending.imp (congrArg _) (congrArg _)) related'⟩
    rw [List.splitOn_cons_eq_if_modifyHead, if_neg (by simpa using notFeed)]
    rcases cut with same | same
    · exact .inl (by rw [same, List.modifyHead_cons])
    · exact .inr (by rw [same, List.cons_append, List.modifyHead_cons]; rfl)

theorem trim_append_return (line : List Char) : trim (line ++ ['\r']) = trim line := by
  rw [trim, trimStart_append_space line (by decide)]
  split
  next blank => rw [trim, blank]
  next => exact trimEnd_append_space (by decide)

/-- Trimmed, the pieces between line feeds are the lines. -/
theorem exists_trimmed_lines (text : List Char) : ∃ pieces,
    (text.splitOn '\n' = pieces ∨ text.splitOn '\n' = pieces ++ [[]]) ∧
      (numberedLines text).map (fun line => trim line.2) = pieces.map trim := by
  obtain ⟨pieces, cut, related⟩ := splitOn_lines text
  refine ⟨pieces, cut, ?_⟩
  rw [show (fun line : Nat × List Char => trim line.2) = trim ∘ (·.2) from rfl, ← List.map_map,
    map_numberedLines]
  clear cut
  generalize lines text = whole at related ⊢
  induction related with
  | nil => rfl
  | cons ending _ ih =>
    rw [List.map_cons, List.map_cons, ih]
    rcases ending with rfl | rfl
    · rfl
    · rw [trim_append_return]

/-- A text with blanks before and after it. -/
def Padded (core text : List Char) : Prop :=
  ∃ front back, (∀ c ∈ front, isSpace c = true) ∧ (∀ c ∈ back, isSpace c = true) ∧
    text = front ++ core ++ back

namespace Padded
variable {core text : List Char} (padded : Padded core text) (some : core ≠ []) (trimmed : Trimmed core)
include padded some trimmed

theorem trimStart : Padded core (trimStart text) := by
  obtain ⟨front, back, blank, blank', rfl⟩ := padded
  refine ⟨[], back, by simp, blank', ?_⟩
  rw [List.append_assoc, trimStart_append_blank blank, List.nil_append, trimStart_of_head]
  rw [List.head?_append_of_ne_nil _ some]
  exact trimmed.front

theorem trimEnd : Padded core (trimEnd text) := by
  obtain ⟨front, back, blank, blank', rfl⟩ := padded
  refine ⟨front, [], blank, by simp, ?_⟩
  rw [trimEnd_append_blank blank', List.append_nil, trimEnd_of_getLast]
  rw [List.getLast?_append_of_ne_nil _ some]
  exact trimmed.back

theorem trim_eq : trim text = core := by
  obtain ⟨front, back, blank, blank', rfl⟩ := padded
  rw [trim, List.append_assoc, trimStart_append_blank blank, trimStart_of_head, trimEnd_append_blank blank',
    trimEnd_of_getLast trimmed.back]
  rw [List.head?_append_of_ne_nil _ some]
  exact trimmed.front

theorem trimEnd_ne_nil : Text.trimEnd text ≠ [] := by
  obtain ⟨front, back, -, -, same⟩ := padded.trimEnd some trimmed
  rw [same]
  simp [some]

theorem getLast_trimEnd : (Text.trimEnd text).getLast? = core.getLast? := by
  obtain ⟨front, back, blank, blank', rfl⟩ := padded
  rw [trimEnd_append_blank blank', trimEnd_of_getLast]
  · exact List.getLast?_append_of_ne_nil _ some
  · rw [List.getLast?_append_of_ne_nil _ some]
    exact trimmed.back

end Padded

/-- A word that can be an item of a list. -/
structure IsItem (item : String) : Prop where
  some : item.toList ≠ []
  solid : ∀ c ∈ item.toList, isSpace c = false
  whole : ',' ∉ item.toList

/-- Items with commas between them, each with blanks around it. -/
inductive Listed : List String → List Char → Prop
  | one {item : String} {piece : List Char} (padded : Padded item.toList piece) : Listed [item] piece
  | more {item : String} {items : List String} {piece text : List Char}
      (padded : Padded item.toList piece) (rest : Listed items text) :
      Listed (item :: items) (piece ++ ',' :: text)

namespace Listed
variable {items : List String} {text : List Char} (listed : Listed items text)
  (solid : ∀ item ∈ items, IsItem item)
include listed solid

theorem trimStart : Listed items (trimStart text) := by
  cases listed with
  | one padded =>
    have word := solid _ List.mem_cons_self
    exact .one (padded.trimStart word.some (trimmed_of_solid word.solid))
  | @more item items piece text padded rest =>
    have word := solid _ List.mem_cons_self
    have trimmed := padded.trimStart word.some (trimmed_of_solid word.solid)
    have some : Text.trimStart piece ≠ [] := by
      obtain ⟨front, back, -, -, same⟩ := trimmed
      rw [same]
      simp [word.some]
    rw [trimStart_append some]
    exact .more trimmed rest

/-- Behind, only the last item is trimmed, so that the list is followed to its end. -/
theorem trimEnd : Listed items (trimEnd text) ∧
    ∃ item ∈ items, (Text.trimEnd text).getLast? = item.toList.getLast? := by
  induction listed with
  | @one item piece padded =>
    have word := solid _ List.mem_cons_self
    have trimmed := trimmed_of_solid word.solid
    exact ⟨.one (padded.trimEnd word.some trimmed), item, List.mem_cons_self,
      padded.getLast_trimEnd word.some trimmed⟩
  | @more item items piece text padded rest ih =>
    obtain ⟨later, last, inside, same⟩ := ih fun item within => solid item (List.mem_cons_of_mem _ within)
    have behind : Text.trimEnd (',' :: text) = ',' :: Text.trimEnd text := trimEnd_cons isSpace_comma text
    have whole : Text.trimEnd (piece ++ ',' :: text) = piece ++ ',' :: Text.trimEnd text := by
      rw [trimEnd_append_solid (by simp [behind]), behind]
    have some : Text.trimEnd text ≠ [] := by
      intro none
      have word := solid last (List.mem_cons_of_mem _ inside)
      rw [none, eq_comm, List.getLast?_nil, List.getLast?_eq_none_iff] at same
      exact word.some same
    rw [whole]
    refine ⟨.more padded later, last, List.mem_cons_of_mem _ inside, ?_⟩
    rw [List.getLast?_append_of_ne_nil _ (by simp), List.getLast?_cons, same]
    obtain ⟨c, final⟩ := Option.ne_none_iff_exists'.1 (mt List.getLast?_eq_none_iff.1 some)
    rw [← same, final]
    rfl

/-- Cut at its commas and trimmed, the list has its items again. -/
theorem splitOn_eq : (text.splitOn ',').map (fun piece => String.ofList (trim piece)) = items := by
  have unbroken {item : String} {piece : List Char} (padded : Padded item.toList piece)
      (word : IsItem item) : ',' ∉ piece := by
    obtain ⟨front, back, blank, blank', rfl⟩ := padded
    rw [List.mem_append, List.mem_append, not_or, not_or]
    exact ⟨⟨fun found => ne_of_isSpace (blank _ found) isSpace_comma rfl, word.whole⟩,
      fun found => ne_of_isSpace (blank' _ found) isSpace_comma rfl⟩
  induction listed with
  | one padded =>
    have word := solid _ List.mem_cons_self
    rw [List.splitOn_eq_singleton (unbroken padded word), List.map_singleton,
      padded.trim_eq word.some (trimmed_of_solid word.solid), String.ofList_toList]
  | more padded rest ih =>
    have word := solid _ List.mem_cons_self
    have later := ih fun item within => solid item (List.mem_cons_of_mem _ within)
    rw [List.splitOn_append_cons_self, List.splitOn_eq_singleton (unbroken padded word), List.map_append,
      later, List.map_singleton, padded.trim_eq word.some (trimmed_of_solid word.solid),
      String.ofList_toList, List.singleton_append]

end Listed
end AccessControl.Text
