import AccessControl.Proofs.Pattern.Glob
/-!
What path patterns match, told on the segments of pattern and key by their places. The comparison goes along
both lists at once and looks one segment of the pattern ahead, for only a star in the last place takes more
than one segment of the key. Everywhere else the segments must be as many, an empty one counting like any
other, and each segment of the key must be taken by the one in its place.
-/
namespace AccessControl.PathPattern

/-- Segments without a slash that make up the path with slashes between them. -/
structure Cut (path : String) (parts : List (List Char)) : Prop where
  some : parts ≠ []
  whole : ∀ part ∈ parts, '/' ∉ part
  joined : List.intercalate ['/'] parts = path.toList

/-- What a segment of a pattern takes: a name after a colon takes whatever is not empty, a segment with a
star what it is a glob for, and any other segment itself. -/
inductive Takes : List Char → List Char → Prop
  | named (name : List Char) {key : List Char} (some : key ≠ []) : Takes (':' :: name) key
  | glob {pattern key : List Char} (unnamed : pattern.head? ≠ some ':') (starred : '*' ∈ pattern)
      (spells : Glob.Spells '*' pattern key) : Takes pattern key
  | itself {segment : List Char} (unnamed : segment.head? ≠ some ':') (plain : '*' ∉ segment) :
      Takes segment segment

/-- Each of the first `count` segments of a pattern takes the segment of the key in its place. -/
def TakesFirst (count : Nat) (patterns keys : List (List Char)) : Prop :=
  ∀ place < count, ∀ pattern ∈ patterns[place]?, ∀ key ∈ keys[place]?, Takes pattern key

/-- The segments of a pattern cover those of a key: one by one, but that a last star covers one segment and
all that come after it. -/
def Covers (patterns keys : List (List Char)) : Prop :=
  (patterns.getLast? = some ['*'] ∧ patterns.length ≤ keys.length ∧
      TakesFirst (patterns.length - 1) patterns keys) ∨
    (patterns.getLast? ≠ some ['*'] ∧ patterns.length = keys.length ∧
      TakesFirst patterns.length patterns keys)

theorem not_mem_of_mem_splitOn {text part : List Char} (inside : part ∈ text.splitOn '/') : '/' ∉ part := by
  induction text generalizing part with
  | nil =>
    rw [List.splitOn_nil, List.mem_singleton] at inside
    simp [inside]
  | cons c rest ih =>
    rw [List.splitOn_cons_eq_if_modifyHead] at inside
    by_cases slash : c = '/'
    · rw [if_pos (by simpa using slash), List.mem_cons] at inside
      rcases inside with rfl | later
      · exact List.not_mem_nil
      · exact ih later
    · rw [if_neg (by simpa using slash)] at inside
      obtain ⟨first, later, parted⟩ := List.exists_cons_of_ne_nil (List.splitOn_ne_nil '/' rest)
      rw [parted] at inside ih
      rw [List.modifyHead_cons, List.mem_cons] at inside
      rcases inside with rfl | inside
      · rw [List.mem_cons, not_or]
        exact ⟨Ne.symm slash, ih List.mem_cons_self⟩
      · exact ih (List.mem_cons_of_mem _ inside)

/-- There is one way to cut a path. -/
theorem cut_iff {path : String} {parts : List (List Char)} : Cut path parts ↔ parts = segments path := by
  constructor
  · intro cut
    rw [segments, ← cut.joined, List.splitOn_intercalate '/' cut.whole cut.some]
  · rintro rfl
    exact ⟨List.splitOn_ne_nil '/' _, fun _ => not_mem_of_mem_splitOn, List.intercalate_splitOn '/'⟩

theorem takes_iff (pattern key : List Char) : takes pattern key = true ↔ Takes pattern key := by
  unfold takes
  split
  next name =>
    constructor
    · intro some
      exact .named name (by simpa using some)
    · intro taken
      cases taken with
      | named _ some => simpa using some
      | glob unnamed => exact absurd rfl unnamed
      | itself unnamed => exact absurd rfl unnamed
  next other =>
    have unnamed : pattern.head? ≠ some ':' := by
      intro first
      obtain ⟨name, rfl⟩ := List.head?_eq_some_iff.1 first
      exact other name rfl
    by_cases starred : '*' ∈ pattern
    · rw [if_pos starred, Glob.matchesText_iff_fits, String.toList_ofList, String.toList_ofList,
        ← Glob.spells_iff_fits]
      constructor
      · exact .glob unnamed starred
      · intro taken
        cases taken with
        | named => exact absurd rfl unnamed
        | glob _ _ spells => exact spells
        | itself _ plain => exact absurd starred plain
    · rw [if_neg starred, beq_iff_eq]
      constructor
      · rintro rfl
        exact .itself unnamed starred
      · intro taken
        cases taken with
        | named => exact absurd rfl unnamed
        | glob _ here => exact absurd here starred
        | itself => rfl

variable {pattern key : List Char} {patterns keys : List (List Char)}

theorem takesFirst_succ {count : Nat} : TakesFirst (count + 1) (pattern :: patterns) (key :: keys) ↔
    Takes pattern key ∧ TakesFirst count patterns keys := by
  unfold TakesFirst
  constructor
  · intro taken
    refine ⟨taken 0 (Nat.zero_lt_succ count) pattern rfl key rfl, ?_⟩
    intro place before
    exact taken (place + 1) (Nat.succ_lt_succ before)
  · rintro ⟨first, later⟩ place before
    cases place with
    | zero =>
      rintro _ ⟨⟩ _ ⟨⟩
      exact first
    | succ place => exact later place (Nat.lt_of_succ_lt_succ before)

/-- Where a segment of the pattern is not a star in the last place, it takes one segment of the key. -/
theorem covers_cons (inner : pattern = ['*'] → patterns ≠ []) :
    Covers (pattern :: patterns) (key :: keys) ↔ Takes pattern key ∧ Covers patterns keys := by
  unfold Covers
  cases patterns with
  | nil =>
    have other : pattern ≠ ['*'] := fun same => inner same rfl
    simp only [List.getLast?_singleton, Option.some.injEq, other, false_and, false_or, not_false_eq_true,
      true_and, List.length_cons, Nat.succ_inj, takesFirst_succ, List.getLast?_nil, reduceCtorEq, ne_eq]
    exact and_left_comm
  | cons next later =>
    simp only [List.getLast?_cons_cons, List.length_cons, Nat.add_sub_cancel, Nat.succ_le_succ_iff,
      Nat.succ_inj, takesFirst_succ]
    tauto

/-- A star in the last place covers whatever is left, if there is anything. -/
theorem covers_star : Covers [['*']] keys ↔ keys ≠ [] := by
  simp [Covers, TakesFirst, Nat.one_le_iff_ne_zero]

theorem covers_nil_left : Covers [] keys ↔ keys = [] := by
  simp [Covers, TakesFirst, eq_comm]

theorem not_covers_nil_right (some : patterns ≠ []) : ¬Covers patterns [] := by
  simp [Covers, some]

theorem takesAll_iff (patterns keys : List (List Char)) :
    takesAll patterns keys = true ↔ Covers patterns keys := by
  fun_induction takesAll patterns keys with
  | case1 => simp [covers_nil_left]
  | case2 key keys => simp [covers_star]
  | case3 pattern patterns key keys inner ih =>
    rw [Bool.and_eq_true, takes_iff, ih, covers_cons]
    rintro rfl rfl
    exact inner rfl rfl
  | case4 patterns keys ended unstarred unpaired =>
    refine iff_of_false Bool.false_ne_true ?_
    cases patterns with
    | nil =>
      rw [covers_nil_left]
      exact fun same => ended rfl same
    | cons pattern patterns =>
      cases keys with
      | nil => exact not_covers_nil_right (List.cons_ne_nil _ _)
      | cons key keys => exact absurd rfl (unpaired _ _ _ _ rfl)

/-- A key matches a pattern, also as a test in a matcher, just when the segments of the pattern cover those of
the key: where the last one is a star, the key has at least as many and all before the star take the one in
their place; otherwise they are as many, and all of them do. -/
theorem matchesText_covers [Regex.Engine] (pattern key : String) :
    ∃ patterns keys, Cut pattern patterns ∧ Cut key keys ∧
      (matchesText pattern key = true ↔ Covers patterns keys) ∧
      ∀ cache, ∃ answer, (Term.apply .keyMatch2 key pattern).run cache = (.ok answer, cache) ∧
        (answer = true ↔ Covers patterns keys) := by
  have matching : matchesText pattern key = true ↔ Covers (segments pattern) (segments key) :=
    takesAll_iff _ _
  refine ⟨segments pattern, segments key, cut_iff.2 rfl, cut_iff.2 rfl, matching, ?_⟩
  exact fun cache => ⟨matchesText pattern key, rfl, matching⟩

example : matchesText "/api/*" "/api/" = true ∧ matchesText "/api/*" "/api" = false ∧
    matchesText "/*/:id" "//7" = true ∧ matchesText "/*/:id" "/a/" = false := by
  decide +kernel

end AccessControl.PathPattern
