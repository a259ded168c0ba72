import AccessControl.Matcher.Token
/-!
Spellings of tokens. Tokens can be written down with blanks wherever one likes and with literals between
either kind of quotes, where a backslash stands before each quote of that kind and before each backslash.
Only where the end of a token would not be seen something has to part it from the next one. Whatever has
been written so is read as the same tokens again.
-/
namespace AccessControl.Token

/-- The characters of a literal between quotes. -/
def escaped (quote : Char) (value : List Char) : List Char :=
  value.flatMap fun c => if c = quote ∨ c = '\\' then ['\\', c] else [c]

/-- The text of a token, with quotes of some kind around a literal. -/
def spelling (quote : Char) : Token → List Char
  | identifier name => name.toList
  | literal value => quote :: (escaped quote value.toList ++ [quote])
  | truth => ['t', 'r', 'u', 'e']
  | falsity => ['f', 'a', 'l', 's', 'e']
  | dot => ['.']
  | comma => [',']
  | leftParen => ['(']
  | rightParen => [')']
  | equal => ['=', '=']
  | unequal => ['!', '=']
  | and => ['&', '&']
  | or => ['|', '|']
  | not => ['!']
  | within => ['i', 'n']

/-- Whether a text may follow a token at once. A word must not go on, nor a negation turn into another
sign. -/
def Parted : Token → List Char → Prop
  | identifier _, text | truth, text | falsity, text | within, text =>
    ∀ c ∈ text.head?, continuesWord c = false
  | not, text => ∀ c ∈ text.head?, c ≠ '='
  | _, _ => True

/-- The ways to write tokens down. -/
inductive Spells : List Token → List Char → Prop
  | nil : Spells [] []
  | blank {c : Char} {tokens : List Token} {text : List Char} (blank : isBlank c = true)
      (rest : Spells tokens text) : Spells tokens (c :: text)
  | token {token : Token} {tokens : List Token} {quote : Char} {text : List Char}
      (quotes : quote = '"' ∨ quote = '\'') (parted : token.Parted text) (rest : Spells tokens text) :
      Spells (token :: tokens) (token.spelling quote ++ text)

/-- A name is a word that is not reserved. -/
structure IsName (name : String) : Prop where
  word : ∃ first more, name.toList = first :: more ∧ startsWord first = true ∧
    ∀ c ∈ more, continuesWord c = true
  free : name ≠ "true" ∧ name ≠ "false" ∧ name ≠ "in"

theorem IsName.ofWord_eq {name : String} (named : IsName name) : ofWord name.toList = identifier name := by
  obtain ⟨-, notTrue, notFalse, notIn⟩ := named
  have apartTrue : name.toList ≠ ['t', 'r', 'u', 'e'] := by
    intro equal
    exact notTrue (String.toList_injective equal)
  have apartFalse : name.toList ≠ ['f', 'a', 'l', 's', 'e'] := by
    intro equal
    exact notFalse (String.toList_injective equal)
  have apartIn : name.toList ≠ ['i', 'n'] := by
    intro equal
    exact notIn (String.toList_injective equal)
  rw [ofWord, if_neg apartTrue, if_neg apartFalse, if_neg apartIn, String.ofList_toList]

/-- Whether a token can be written down. An identifier has to be a name. -/
def Named : Token → Prop
  | identifier name => IsName name
  | _ => True

theorem readLiteral_escaped {quote : Char} (quotes : quote = '"' ∨ quote = '\'') (value rest : List Char) :
    readLiteral quote (escaped quote value ++ quote :: rest) = some (value, rest) := by
  induction value with
  | nil =>
    show readLiteral quote (quote :: rest) = _
    unfold readLiteral
    rw [if_pos rfl]
  | cons c value ih =>
    have unescape : '\\' ≠ quote := by
      rcases quotes with rfl | rfl <;> decide
    by_cases special : c = quote ∨ c = '\\'
    · have step : escaped quote (c :: value) = '\\' :: c :: escaped quote value := by
        simp [escaped, special]
      rw [step, List.cons_append, List.cons_append]
      unfold readLiteral
      rw [if_neg unescape, if_pos rfl]
      simp only [ih, Option.map_some]
    · have step : escaped quote (c :: value) = c :: escaped quote value := by
        simp [escaped, special]
      rw [not_or] at special
      rw [step, List.cons_append]
      unfold readLiteral
      rw [if_neg special.1, if_neg special.2]
      simp only [ih, Option.map_some]

theorem eq_of_isBlank {c : Char} (blank : isBlank c = true) : c = ' ' ∨ c = '\t' ∨ c = '\n' ∨ c = '\r' := by
  unfold isBlank at blank
  simpa [or_assoc] using blank

theorem ofText_blank {c : Char} (blank : isBlank c = true) (text : List Char) :
    ofText (c :: text) = ofText text := by
  rw [ofText.eq_6, if_pos blank]
  · rintro rest rfl
    cases blank
  · rintro rest rfl
    cases blank
  · rintro rest rfl
    cases blank
  · rintro rest rfl
    cases blank

theorem ofText_literal {quote : Char} (quotes : quote = '"' ∨ quote = '\'') (value : String)
    (text : List Char) :
    ofText (quote :: (escaped quote value.toList ++ quote :: text)) =
      (ofText text).map (literal value :: ·) := by
  have read := readLiteral_escaped quotes value.toList text
  rw [ofText.eq_6]
  · rw [if_neg, if_neg, if_neg, if_neg, if_neg, if_neg, if_pos quotes]
    · split
      next absent =>
        rw [read] at absent
        cases absent
      next found after same =>
        rw [read] at same
        cases same
        rw [String.ofList_toList]
    all_goals
      rcases quotes with rfl | rfl <;> decide
  all_goals
    rintro rest rfl -
    exact absurd quotes (by decide)

theorem ne_of_startsWord {c d : Char} (starts : startsWord c = true) (other : startsWord d = false) :
    c ≠ d := by
  rintro rfl
  rw [starts] at other
  cases other

theorem not_isBlank_of_startsWord {c : Char} (starts : startsWord c = true) : ¬isBlank c = true := by
  intro blank
  rcases eq_of_isBlank blank with rfl | rfl | rfl | rfl
  · exact absurd starts (by decide)
  · exact absurd starts (by decide)
  · exact absurd starts (by decide)
  · exact absurd starts (by decide)

theorem ofText_word {first : Char} {more text : List Char} (starts : startsWord first = true)
    (continues : ∀ c ∈ more, continuesWord c = true) (parted : ∀ c ∈ text.head?, continuesWord c = false) :
    ofText (first :: (more ++ text)) = (ofText text).map (ofWord (first :: more) :: ·) := by
  have ended : text.takeWhile continuesWord = [] ∧ text.dropWhile continuesWord = text := by
    cases text with
    | nil => exact ⟨rfl, rfl⟩
    | cons c text =>
      have stop := parted c rfl
      exact ⟨List.takeWhile_cons_of_neg (by simp [stop]), List.dropWhile_cons_of_neg (by simp [stop])⟩
  have unquoted : ¬(first = '"' ∨ first = '\'') := by
    rintro (rfl | rfl)
    · exact absurd starts (by decide)
    · exact absurd starts (by decide)
  rw [ofText.eq_6, if_neg (not_isBlank_of_startsWord starts),
    if_neg (ne_of_startsWord starts (by decide)), if_neg (ne_of_startsWord starts (by decide)),
    if_neg (ne_of_startsWord starts (by decide)), if_neg (ne_of_startsWord starts (by decide)),
    if_neg (ne_of_startsWord starts (by decide)), if_neg unquoted, if_pos starts,
    List.takeWhile_append_of_pos continues, List.dropWhile_append_of_pos continues, ended.1, ended.2,
    List.append_nil]
  all_goals
    rintro rest rfl
    exact absurd starts (by decide)

/-- A token that is written down is read first, and then what comes after it. -/
theorem ofText_spelling {token : Token} (named : token.Named) {quote : Char}
    (quotes : quote = '"' ∨ quote = '\'') {text : List Char} (parted : token.Parted text) :
    ofText (token.spelling quote ++ text) = (ofText text).map (token :: ·) := by
  cases token with
  | identifier name =>
    obtain ⟨first, more, spelt, starts, continues⟩ := IsName.word named
    have word := ofText_word starts continues parted
    show ofText (name.toList ++ text) = _
    rw [spelt, List.cons_append, word, ← spelt, IsName.ofWord_eq named]
  | literal value =>
    show ofText (quote :: (escaped quote value.toList ++ [quote]) ++ text) = _
    rw [List.cons_append, List.append_assoc]
    exact ofText_literal quotes value text
  | truth =>
    have letters : ∀ c ∈ ['r', 'u', 'e'], continuesWord c = true := List.all_eq_true.1 rfl
    exact ofText_word rfl letters parted
  | falsity =>
    have letters : ∀ c ∈ ['a', 'l', 's', 'e'], continuesWord c = true := List.all_eq_true.1 rfl
    exact ofText_word rfl letters parted
  | within =>
    have letters : ∀ c ∈ ['n'], continuesWord c = true := List.all_eq_true.1 rfl
    exact ofText_word rfl letters parted
  | not =>
    show ofText ('!' :: text) = _
    rw [ofText.eq_6]
    · rfl
    · rintro rest same -
      cases same
    · rintro rest - rfl
      exact parted '=' rfl rfl
    · rintro rest same -
      cases same
    · rintro rest same -
      cases same
  | equal => exact ofText.eq_2 text
  | unequal => exact ofText.eq_3 text
  | and => exact ofText.eq_4 text
  | or => exact ofText.eq_5 text
  | dot =>
    show ofText ('.' :: text) = _
    rw [ofText.eq_def]
    rfl
  | comma =>
    show ofText (',' :: text) = _
    rw [ofText.eq_def]
    rfl
  | leftParen =>
    show ofText ('(' :: text) = _
    rw [ofText.eq_def]
    rfl
  | rightParen =>
    show ofText (')' :: text) = _
    rw [ofText.eq_def]
    rfl

/-- Tokens that have been written down are read again. -/
theorem ofText_of_spells {tokens : List Token} {text : List Char} (spells : Spells tokens text)
    (named : ∀ token ∈ tokens, token.Named) : ofText text = .ok tokens := by
  induction spells with
  | nil => exact ofText.eq_1
  | blank blank rest ih =>
    rw [ofText_blank blank]
    exact ih named
  | token quotes parted rest ih =>
    rw [ofText_spelling (named _ List.mem_cons_self) quotes parted,
      ih fun token inside => named token (List.mem_cons_of_mem _ inside)]
    rfl

theorem parted_of_blank {c : Char} (blank : isBlank c = true) (token : Token) (text : List Char) :
    token.Parted (c :: text) := by
  have stop : continuesWord c = false := by
    rcases eq_of_isBlank blank with rfl | rfl | rfl | rfl <;> decide
  have other : c ≠ '=' := by
    rintro rfl
    cases blank
  unfold Parted
  split
  case h_6 => trivial
  case h_5 =>
    intro d next
    cases next
    exact other
  all_goals
    intro d next
    cases next
    exact stop

/-- All tokens can be written down, for instance with a blank after each of them. -/
theorem exists_spells (tokens : List Token) : ∃ text, Spells tokens text := by
  induction tokens with
  | nil => exact ⟨[], .nil⟩
  | cons token rest ih =>
    obtain ⟨text, spells⟩ := ih
    have blank : isBlank ' ' = true := rfl
    exact ⟨_, .token (.inl rfl) (parted_of_blank blank token text) (.blank blank spells)⟩

end AccessControl.Token
