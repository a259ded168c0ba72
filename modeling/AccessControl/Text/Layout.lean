/-!
Characters that count for more than themselves, and the lines of a text, which is read as a list of
characters. A blank is any character with the Unicode property White_Space; trimming a text drops blanks at
either end and nowhere else. A digit is one of a number in some base up to sixteen; the letters of either case
are the digits from ten on. A line ends at a line feed, and a carriage return just before that line feed belongs
to the line end. A text that ends with a line feed has no further empty line.
-/
namespace AccessControl.Text

/-- A character with the Unicode property White_Space. -/
def isSpace (c : Char) : Bool :=
  let code := c.val
  (0x9 ≤ code && code ≤ 0xD) || code == 0x20 || code == 0x85 || code == 0xA0 || code == 0x1680 ||
    (0x2000 ≤ code && code ≤ 0x200A) || code == 0x2028 || code == 0x2029 || code == 0x202F ||
    code == 0x205F || code == 0x3000

/-- The text without its leading blanks. -/
def trimStart (text : List Char) : List Char := text.dropWhile isSpace

/-- The text without its trailing blanks. -/
def trimEnd (text : List Char) : List Char := (text.reverse.dropWhile isSpace).reverse

/-- The text without its outer blanks. -/
def trim (text : List Char) : List Char := trimEnd (trimStart text)

theorem trimStart_cons_space {c : Char} {rest : List Char} (blank : isSpace c = true) :
    trimStart (c :: rest) = trimStart rest := by
  simp [trimStart, List.dropWhile, blank]

theorem trimStart_cons {c : Char} {rest : List Char} (solid : isSpace c = false) :
    trimStart (c :: rest) = c :: rest := by
  simp [trimStart, List.dropWhile, solid]

theorem trimEnd_append_space {text : List Char} {c : Char} (blank : isSpace c = true) :
    trimEnd (text ++ [c]) = trimEnd text := by
  simp [trimEnd, blank]

theorem trimEnd_append {text : List Char} {c : Char} (solid : isSpace c = false) :
    trimEnd (text ++ [c]) = text ++ [c] := by
  simp [trimEnd, solid]

def digit? (c : Char) : Option Nat :=
  if c.isDigit then some (c.toNat - '0'.toNat)
  else if 'a' ≤ c ∧ c ≤ 'f' then some (c.toNat - 'a'.toNat + 10)
  else if 'A' ≤ c ∧ c ≤ 'F' then some (c.toNat - 'A'.toNat + 10)
  else none

def isHexDigit (c : Char) : Bool := (digit? c).isSome

def numberOf (base : Nat) (digits : List Char) : Nat :=
  digits.foldl (fun number c => base * number + (digit? c).getD 0) 0

/-- The lines of a text, without their line ends. A last line needs no line end. -/
def lines : List Char → List (List Char)
  | [] => []
  | '\n' :: rest => [] :: lines rest
  | '\r' :: '\n' :: rest => [] :: lines rest
  | c :: rest =>
    match lines rest with
    | [] => [[c]]
    | line :: later => (c :: line) :: later

/-- The lines of a text with their numbers, counted from one. -/
def numberedLines (text : List Char) : List (Nat × List Char) :=
  (lines text).zipIdx 1 |>.map fun (line, number) => (number, line)

/-- The text before and after the first `separator`, if there is one. -/
def cut? (separator : Char) : List Char → Option (List Char × List Char)
  | [] => none
  | c :: rest =>
    if c = separator then some ([], rest)
    else (cut? separator rest).map fun (before, after) => (c :: before, after)

theorem lines_lineFeed (rest : List Char) : lines ('\n' :: rest) = [] :: lines rest := by
  rw [lines]

/-- Cutting loses nothing but the separator, and cuts at its first occurrence. -/
theorem eq_of_cut? {separator : Char} {text before after : List Char}
    (found : cut? separator text = some (before, after)) :
    text = before ++ separator :: after ∧ separator ∉ before := by
  induction text generalizing before with
  | nil => simp [cut?] at found
  | cons c rest ih =>
    rw [cut?] at found
    split at found
    next same =>
      obtain ⟨rfl, rfl⟩ := Prod.mk.inj (Option.some.inj found)
      simp [same]
    next other =>
      obtain ⟨⟨front, back⟩, inner, same⟩ := Option.map_eq_some_iff.1 found
      obtain ⟨rfl, rfl⟩ := Prod.mk.inj same
      obtain ⟨split, fresh⟩ := ih inner
      exact ⟨by rw [split]; rfl, by simp [Ne.symm other, fresh]⟩

end AccessControl.Text
