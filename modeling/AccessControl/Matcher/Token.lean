/-!
The tokens of matcher expressions. Blanks, tabs and line ends part tokens; a word is a letter or an
underscore followed by letters, digits and underscores; a literal stands between two double or two
single quotes, where a backslash takes the next character as it is.
-/
namespace AccessControl

inductive Token where
  | identifier (name : String)
  | literal (value : String)
  | truth
  | falsity
  | dot
  | comma
  | leftParen
  | rightParen
  | equal
  | unequal
  | and
  | or
  | not
  | within
deriving DecidableEq, Repr, Inhabited

namespace Token

inductive Fault where
  | unterminatedLiteral
  | unexpectedCharacter (c : Char)
deriving DecidableEq, Repr

/-- The four characters that only part tokens. -/
def isBlank (c : Char) : Bool := c == ' ' || c == '\t' || c == '\n' || c == '\r'

def startsWord (c : Char) : Bool := c.isAlpha || c == '_'

def continuesWord (c : Char) : Bool := c.isAlphanum || c == '_'

/-- The token of a word: three words are reserved, every other one is an identifier. -/
def ofWord (word : List Char) : Token :=
  if word = ['t', 'r', 'u', 'e'] then truth
  else if word = ['f', 'a', 'l', 's', 'e'] then falsity
  else if word = ['i', 'n'] then within
  else identifier (String.ofList word)

/-- The value of a literal whose opening `quote` has been read, and the text after its end. A
backslash gives the character after it, also when that is the quote. -/
def readLiteral (quote : Char) : List Char → Option (List Char × List Char)
  | [] => none
  | c :: rest =>
    if c = quote then some ([], rest)
    else if c = '\\' then
      match rest with
      | [] => none
      | taken :: rest => (readLiteral quote rest).map fun (value, after) => (taken :: value, after)
    else (readLiteral quote rest).map fun (value, after) => (c :: value, after)

theorem length_of_readLiteral {quote : Char} {text value rest : List Char}
    (read : readLiteral quote text = some (value, rest)) : rest.length < text.length := by
  fun_induction readLiteral quote text generalizing value with
  | case1 => simp at read
  | case2 after =>
    simp at read
    simp [read.2]
  | case3 => simp at read
  | case4 taken after _ ih =>
    obtain ⟨⟨inner, left⟩, found, same⟩ := Option.map_eq_some_iff.1 read
    simp at same
    have shorter := ih (same.2 ▸ found)
    simp only [List.length_cons]
    omega
  | case5 c after _ _ ih =>
    obtain ⟨⟨inner, left⟩, found, same⟩ := Option.map_eq_some_iff.1 read
    simp at same
    have shorter := ih (same.2 ▸ found)
    simp only [List.length_cons]
    omega

/-- The tokens of a text in order. -/
def ofText : List Char → Except Fault (List Token)
  | [] => .ok []
  | '=' :: '=' :: rest => (ofText rest).map (equal :: ·)
  | '!' :: '=' :: rest => (ofText rest).map (unequal :: ·)
  | '&' :: '&' :: rest => (ofText rest).map (and :: ·)
  | '|' :: '|' :: rest => (ofText rest).map (or :: ·)
  | c :: rest =>
    if isBlank c then ofText rest
    else if c = '.' then (ofText rest).map (dot :: ·)
    else if c = ',' then (ofText rest).map (comma :: ·)
    else if c = '(' then (ofText rest).map (leftParen :: ·)
    else if c = ')' then (ofText rest).map (rightParen :: ·)
    else if c = '!' then (ofText rest).map (not :: ·)
    else if c = '"' ∨ c = '\'' then
      match read : readLiteral c rest with
      | none => .error .unterminatedLiteral
      | some (value, after) =>
        have : after.length < rest.length := length_of_readLiteral read
        (ofText after).map (literal (String.ofList value) :: ·)
    else if startsWord c then
      have : (rest.dropWhile continuesWord).length ≤ rest.length :=
        (List.dropWhile_sublist _).length_le
      (ofText (rest.dropWhile continuesWord)).map (ofWord (c :: rest.takeWhile continuesWord) :: ·)
    else .error (.unexpectedCharacter c)
termination_by text => text.length
decreasing_by all_goals simp_wf; try omega

end Token
end AccessControl
