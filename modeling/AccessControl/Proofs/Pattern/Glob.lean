import AccessControl.Matcher.Evaluation
import AccessControl.Proofs.Text.Utf8
import Mathlib.Data.List.Basic
/-!
What globs match. A value fits a pattern if something can be put in the place of each star so that the value
comes of it. The comparison keeps this in every step: what it leaves behind for good could not have fitted.
In particular the earlier stars need not be taken up again, since a longer run for one of them only moves
the start of the last one to the right, and the last one may take as much as it likes. The comparison goes
by bytes; but no byte of another character is that of a star, and where a run ends within a character, what
follows it in the pattern cannot begin there.
-/
namespace AccessControl.Glob

section Fits
variable {α : Type} {star c : α} {pattern value : List α}

/-- Whether the value comes of the pattern when something is put in the place of each star. -/
inductive Fits (star : α) : List α → List α → Prop
  | nil : Fits star [] []
  | run (taken : List α) {pattern value : List α} (fits : Fits star pattern value) :
      Fits star (star :: pattern) (taken ++ value)
  | char {c : α} {pattern value : List α} (plain : c ≠ star) (fits : Fits star pattern value) :
      Fits star (c :: pattern) (c :: value)

theorem fits_nil_iff : Fits star [] value ↔ value = [] := by
  constructor
  · rintro ⟨⟩
    rfl
  · rintro rfl
    exact .nil

theorem fits_star_iff :
    Fits star (star :: pattern) value ↔ ∃ taken rest, value = taken ++ rest ∧ Fits star pattern rest := by
  constructor
  · intro fits
    cases fits with
    | run taken fits => exact ⟨taken, _, rfl, fits⟩
    | char plain => exact absurd rfl plain
  · rintro ⟨taken, rest, rfl, fits⟩
    exact .run taken fits

theorem fits_char_iff (plain : c ≠ star) :
    Fits star (c :: pattern) value ↔ ∃ rest, value = c :: rest ∧ Fits star pattern rest := by
  constructor
  · intro fits
    cases fits with
    | run => exact absurd rfl plain
    | char _ fits => exact ⟨_, rfl, fits⟩
  · rintro ⟨rest, rfl, fits⟩
    exact .char plain fits

/-- A piece without a star stands in the value as it is. -/
theorem fits_append_iff {piece : List α} (plain : star ∉ piece) :
    Fits star (piece ++ pattern) value ↔ ∃ rest, value = piece ++ rest ∧ Fits star pattern rest := by
  induction piece generalizing value with
  | nil => simp
  | cons c piece ih =>
    rw [List.mem_cons, not_or] at plain
    rw [List.cons_append, fits_char_iff (Ne.symm plain.1)]
    constructor
    · rintro ⟨_, rfl, fits⟩
      obtain ⟨rest, rfl, left⟩ := (ih plain.2).1 fits
      exact ⟨rest, rfl, left⟩
    · rintro ⟨rest, rfl, fits⟩
      exact ⟨piece ++ rest, rfl, (ih plain.2).2 ⟨rest, rfl, fits⟩⟩

/-- A star in front may take as much more as it likes. -/
theorem Fits.append (fits : Fits star (star :: pattern) value) (taken : List α) :
    Fits star (star :: pattern) (taken ++ value) := by
  obtain ⟨more, rest, rfl, left⟩ := fits_star_iff.1 fits
  rw [← List.append_assoc]
  exact .run _ left

/-- A star is empty, or it takes at least the first of the value. -/
theorem fits_star_iff_or : Fits star (star :: pattern) value ↔
    Fits star pattern value ∨ ∃ c rest, value = c :: rest ∧ Fits star (star :: pattern) rest := by
  constructor
  · intro fits
    obtain ⟨taken, rest, rfl, left⟩ := fits_star_iff.1 fits
    cases taken with
    | nil => exact .inl left
    | cons c taken => exact .inr ⟨c, taken ++ rest, rfl, .run taken left⟩
  · rintro (fits | ⟨c, rest, rfl, fits⟩)
    · exact .run [] fits
    · exact fits.append [c]

/-- Only stars fit nothing. -/
theorem fits_nil_right_iff : Fits star pattern [] ↔ ∀ c ∈ pattern, c = star := by
  induction pattern with
  | nil => simp [fits_nil_iff]
  | cons c pattern ih =>
    by_cases same : c = star
    · subst same
      rw [fits_star_iff_or, ih]
      simp
    · simp [fits_char_iff same, same]

/-- Pattern and value are made of the same pieces without stars. In the pattern there is one star between
any two of them, in the value there is anything. -/
def Spells (star : α) (pattern value : List α) : Prop :=
  ∃ (first : List α) (gaps : List (List α × List α)),
    star ∉ first ∧ (∀ gap ∈ gaps, star ∉ gap.2) ∧
      pattern = first ++ gaps.flatMap (fun gap => star :: gap.2) ∧
      value = first ++ gaps.flatMap (fun gap => gap.1 ++ gap.2)

theorem spells_of_fits (fits : Fits star pattern value) : Spells star pattern value := by
  induction fits with
  | nil => exact ⟨[], [], by simp, by simp, rfl, rfl⟩
  | run taken _ ih =>
    obtain ⟨first, gaps, plain, plainGaps, rfl, rfl⟩ := ih
    refine ⟨[], (taken, first) :: gaps, List.not_mem_nil, ?_, rfl, ?_⟩
    · exact List.forall_mem_cons.2 ⟨plain, plainGaps⟩
    · simp
  | @char c _ _ other _ ih =>
    obtain ⟨first, gaps, plain, plainGaps, rfl, rfl⟩ := ih
    refine ⟨c :: first, gaps, ?_, plainGaps, rfl, rfl⟩
    rw [List.mem_cons, not_or]
    exact ⟨Ne.symm other, plain⟩

theorem Spells.fits (spells : Spells star pattern value) : Fits star pattern value := by
  obtain ⟨first, gaps, plain, plainGaps, rfl, rfl⟩ := spells
  induction gaps generalizing first with
  | nil => exact (fits_append_iff plain).2 ⟨[], rfl, .nil⟩
  | cons gap gaps ih =>
    rw [List.forall_mem_cons] at plainGaps
    refine (fits_append_iff plain).2 ⟨_, rfl, ?_⟩
    rw [List.flatMap_cons, List.flatMap_cons, List.append_assoc]
    exact .run gap.1 (ih gap.2 plainGaps.1 plainGaps.2)

theorem spells_iff_fits : Spells star pattern value ↔ Fits star pattern value :=
  ⟨Spells.fits, spells_of_fits⟩

end Fits

namespace Cursor
variable {cursor next : Cursor} {byte : UInt8} {value : List UInt8}

/-- What follows the last star has been compared up to where the comparison is, and without a star. -/
def Aligned (cursor : Cursor) : Prop :=
  ∀ retry ∈ cursor.retry?, ∃ piece, star ∉ piece ∧
    retry.1 = piece ++ cursor.pattern ∧ retry.2 = piece ++ cursor.value

/-- What is left of the value fits what is left of the pattern, or else the value fits if the last star takes
more than it has. -/
def Possible (cursor : Cursor) : Prop :=
  Fits star cursor.pattern cursor.value ∨
    ∃ retry ∈ cursor.retry?, ∃ byte rest, retry.2 = byte :: rest ∧ Fits star (star :: retry.1) rest

section
variable {pattern value : List UInt8}
  (behind : ∀ retry ∈ some (pattern, value), pattern.length ≤ retry.1.length)

/-- When it is tried for the first time what follows a star, any run may still do for this star. -/
theorem possible_retry_iff :
    Possible ⟨pattern, value, some (pattern, value), behind⟩ ↔ Fits star (star :: pattern) value := by
  rw [fits_star_iff_or]
  simp [Possible]

theorem aligned_retry : Aligned ⟨pattern, value, some (pattern, value), behind⟩ := by
  intro retry last
  cases last
  exact ⟨[], List.not_mem_nil, rfl, rfl⟩

end

/-- What a longer run of the last star leads to, a run of a star that comes now leads to as well. -/
theorem Aligned.fits_of_later (aligned : cursor.Aligned) {pattern : List UInt8}
    (here : cursor.pattern = star :: pattern) {retry : List UInt8 × List UInt8}
    (last : retry ∈ cursor.retry?) {rest : List UInt8} (more : retry.2 = byte :: rest)
    (fits : Fits star (star :: retry.1) rest) : Fits star (star :: pattern) cursor.value := by
  obtain ⟨piece, plain, sameRetry, whole⟩ := aligned retry last
  obtain ⟨taken, _, rfl, fitsRetry⟩ := fits_star_iff.1 fits
  rw [sameRetry, here] at fitsRetry
  obtain ⟨later, rfl, fitsLater⟩ := (fits_append_iff plain).1 fitsRetry
  -- The same piece comes later in the value, so that less of the value is left after it.
  have parted : piece ++ cursor.value = (byte :: taken ++ piece) ++ later := by
    rw [← whole, more]
    simp
  have shorter : later.length ≤ cursor.value.length := by
    have lengths := congrArg List.length parted
    simp only [List.length_append, List.length_cons] at lengths
    omega
  have isEnd : later <:+ piece ++ cursor.value := ⟨_, parted.symm⟩
  obtain ⟨between, same⟩ := List.suffix_of_suffix_length_le isEnd (List.suffix_append _ _) shorter
  rw [← same]
  exact fitsLater.append between

theorem back_none (failed : ¬Fits star cursor.pattern cursor.value) (moved : cursor.back? = none) :
    ¬cursor.Possible := by
  rintro (fits | ⟨⟨pattern, _⟩, last, byte, rest, rfl, -⟩)
  · exact failed fits
  · rw [back?, Option.mem_def.1 last] at moved
    cases moved

theorem back_some (failed : ¬Fits star cursor.pattern cursor.value) (moved : cursor.back? = some next) :
    next.Aligned ∧ (next.Possible ↔ cursor.Possible) := by
  unfold back? at moved
  split at moved
  next pattern _ value last =>
    cases moved
    refine ⟨aligned_retry _, ?_⟩
    rw [possible_retry_iff]
    simp [Possible, failed, last]
  next => cases moved

/-- Where the comparison fails, nothing could have come of it. -/
theorem next_none (here : cursor.value = byte :: value) (moved : cursor.next? byte value = none) :
    ¬cursor.Possible := by
  unfold next? at moved
  split at moved
  next left =>
    refine back_none ?_ moved
    simp [left, here, fits_nil_iff]
  next first pattern left =>
    split at moved
    next => cases moved
    next plain =>
      split at moved
      next => cases moved
      next other =>
        refine back_none ?_ moved
        simp [left, here, fits_char_iff plain, Ne.symm other]

/-- A step neither loses a way to fit nor makes one. -/
theorem next_some (aligned : cursor.Aligned) (here : cursor.value = byte :: value)
    (moved : cursor.next? byte value = some next) :
    next.Aligned ∧ (next.Possible ↔ cursor.Possible) := by
  unfold next? at moved
  split at moved
  next left =>
    refine back_some ?_ moved
    simp [left, here, fits_nil_iff]
  next first pattern left =>
    split at moved
    next same =>
      cases moved
      refine ⟨aligned_retry _, ?_⟩
      rw [possible_retry_iff, ← here]
      subst same
      constructor
      · intro fits
        exact .inl (left ▸ fits)
      · rintro (fits | ⟨retry, last, next, rest, more, fits⟩)
        · exact left ▸ fits
        · exact aligned.fits_of_later left last more fits
    next plain =>
      split at moved
      next same =>
        cases moved
        subst same
        constructor
        · intro retry last
          obtain ⟨piece, plainPiece, sameRetry, whole⟩ := aligned retry last
          refine ⟨piece ++ [first], ?_, ?_, ?_⟩
          · simp [plainPiece, Ne.symm plain]
          · simp [sameRetry, left]
          · simp [whole, here]
        · simp [Possible, left, here, fits_char_iff plain]
      next other =>
        refine back_some ?_ moved
        simp [left, here, fits_char_iff plain, Ne.symm other]

/-- At the end of the value the last star cannot take more, since what follows it takes up the rest. -/
theorem Aligned.possible_of_nil (aligned : cursor.Aligned) (ended : cursor.value = []) :
    cursor.Possible ↔ ∀ byte ∈ cursor.pattern, byte = star := by
  rw [← fits_nil_right_iff, Possible, ended]
  refine or_iff_left ?_
  rintro ⟨retry, last, byte, rest, more, fits⟩
  obtain ⟨piece, plain, sameRetry, whole⟩ := aligned retry last
  obtain ⟨taken, _, rfl, fitsRetry⟩ := fits_star_iff.1 fits
  rw [sameRetry] at fitsRetry
  obtain ⟨later, rfl, -⟩ := (fits_append_iff plain).1 fitsRetry
  have lengths := congrArg List.length (more.symm.trans whole)
  simp only [ended, List.length_append, List.length_cons, List.length_nil] at lengths
  omega

/-- The comparison succeeds just when there is a way to fit. -/
theorem succeeds_iff (aligned : cursor.Aligned) : cursor.succeeds = true ↔ cursor.Possible := by
  fun_induction succeeds cursor with
  | case1 cursor ended =>
    rw [aligned.possible_of_nil ended]
    simp
  | case2 cursor byte value here next moved _ ih =>
    obtain ⟨alignedNext, same⟩ := next_some aligned here moved
    rw [ih alignedNext, same]
  | case3 cursor byte value here moved =>
    exact iff_of_false Bool.false_ne_true (next_none here moved)

end Cursor

/-- The byte of a star begins no other character, nor is it within one. -/
theorem star_not_mem {c : Char} (other : c ≠ '*') : star ∉ String.utf8EncodeChar c := by
  intro inside
  obtain ⟨first, later, encoded, -, none⟩ := Text.utf8EncodeChar_eq_cons c
  rw [encoded, List.mem_cons] at inside
  rcases inside with same | within
  · have begins : String.utf8EncodeChar c ++ [] = String.utf8EncodeChar '*' ++ later := by
      rw [encoded, ← same]
      simp [star, String.utf8EncodeChar]
    exact other (Text.utf8EncodeChar_append_inj begins).1
  · exact none star within (by decide)

theorem encode_star (pattern : List Char) : Text.encode ('*' :: pattern) = star :: Text.encode pattern := rfl

theorem fits_encode {pattern value : List Char} (fits : Fits '*' pattern value) :
    Fits star (Text.encode pattern) (Text.encode value) := by
  induction fits with
  | nil => exact .nil
  | run taken _ ih =>
    rw [encode_star, Text.encode_append]
    exact .run _ ih
  | char other _ ih => exact (fits_append_iff (star_not_mem other)).2 ⟨_, rfl, ih⟩

/-- Where a rest of the bytes fits, so does a rest that begins with a character. -/
theorem exists_fits_of_append {pattern value : List Char} {taken rest : List UInt8}
    (parted : Text.encode value = taken ++ rest) (fits : Fits star (Text.encode pattern) rest) :
    ∃ value₁ value₂, value = value₁ ++ value₂ ∧ Fits star (Text.encode pattern) (Text.encode value₂) := by
  have whole (starts : ∀ byte ∈ rest.head?, byte.IsUTF8FirstByte) : ∃ value₁ value₂,
      value = value₁ ++ value₂ ∧ Fits star (Text.encode pattern) (Text.encode value₂) := by
    obtain ⟨value₁, value₂, rfl, same⟩ := Text.exists_encode_of_append parted starts
    exact ⟨value₁, value₂, rfl, same ▸ fits⟩
  cases pattern with
  | nil =>
    apply whole
    rw [fits_nil_iff.1 fits]
    simp
  | cons c pattern =>
    by_cases same : c = '*'
    · -- Another star follows, which may begin anywhere.
      subst same
      refine ⟨[], value, rfl, ?_⟩
      rw [parted]
      exact Fits.append fits taken
    · apply whole
      obtain ⟨later, rfl, -⟩ := (fits_append_iff (star_not_mem same)).1 fits
      obtain ⟨first, more, encoded, starts, -⟩ := Text.utf8EncodeChar_eq_cons c
      simpa [encoded] using starts

/-- Texts fit by their characters if they fit by their bytes. -/
theorem fits_of_encode {pattern value : List Char}
    (fits : Fits star (Text.encode pattern) (Text.encode value)) : Fits '*' pattern value := by
  induction pattern generalizing value with
  | nil =>
    rw [fits_nil_iff]
    exact Text.encode_eq_nil.1 (fits_nil_iff.1 fits)
  | cons c pattern ih =>
    by_cases same : c = '*'
    · subst same
      obtain ⟨taken, rest, parted, left⟩ := fits_star_iff.1 fits
      obtain ⟨value₁, value₂, rfl, fitsWhole⟩ := exists_fits_of_append parted left
      exact .run value₁ (ih fitsWhole)
    · obtain ⟨rest, parted, left⟩ := (fits_append_iff (star_not_mem same)).1 fits
      cases value with
      | nil => exact absurd parted.symm (by simp [String.utf8EncodeChar_ne_nil])
      | cons d value =>
        obtain ⟨rfl, rfl⟩ := Text.utf8EncodeChar_append_inj parted
        exact .char same (ih left)

/-- A text matches a pattern just when its characters fit those of the pattern. -/
theorem matchesText_iff_fits (pattern value : String) :
    matchesText pattern value = true ↔ Fits '*' pattern.toList value.toList := by
  have compared : Cursor.succeeds { pattern := bytes pattern, value := bytes value } = true ↔
      Fits star (bytes pattern) (bytes value) := by
    have aligned : Cursor.Aligned { pattern := bytes pattern, value := bytes value } := by
      intro retry last
      cases last
    rw [Cursor.succeeds_iff aligned]
    simp [Cursor.Possible]
  rw [matchesText, Bool.or_eq_true, beq_iff_eq, compared, bytes, bytes, Text.toUTF8_eq, Text.toUTF8_eq]
  constructor
  · rintro (rfl | fits)
    · exact fits_star_iff.2 ⟨value.toList, [], by simp, .nil⟩
    · exact fits_of_encode fits
  · intro fits
    exact .inr (fits_encode fits)

/-- A value matches a pattern, and is a key for it, just when it is made of the pieces of the pattern between
its stars, in their order, with any characters in the place of each star. -/
theorem matchesText_spells [Regex.Engine] (pattern value : String) :
    (matchesText pattern value = true ↔ Spells '*' pattern.toList value.toList) ∧
      ∀ cache, ∃ answer, (Term.apply .keyMatch value pattern).run cache = (.ok answer, cache) ∧
        (answer = true ↔ Spells '*' pattern.toList value.toList) := by
  have matching : matchesText pattern value = true ↔ Spells '*' pattern.toList value.toList :=
    (matchesText_iff_fits pattern value).trans spells_iff_fits.symm
  exact ⟨matching, fun cache => ⟨matchesText pattern value, rfl, matching⟩⟩

end AccessControl.Glob
