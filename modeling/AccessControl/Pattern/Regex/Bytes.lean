import AccessControl.Text.CharSet
/-!
Ranges of bytes. The characters of a set are written in UTF-8 by sequences of bytes, and those of a
range of code points by a few sequences of ranges: `sequences` gives them in ascending order. A range is
cut where the number of bytes changes, around the surrogates, and where a byte other than the first
would not run over all of its values.
-/
namespace AccessControl.Regex

/-- The bytes from the first to the last. -/
structure ByteRange where
  first : Nat
  last : Nat
deriving DecidableEq, Repr, Inhabited

/-- The bytes that write a code point. -/
def bytesOf (point : Nat) : List Nat :=
  if point ≤ 0x7F then [point]
  else if point ≤ 0x7FF then [0xC0 + point / 0x40, 0x80 + point % 0x40]
  else if point ≤ 0xFFFF then
    [0xE0 + point / 0x1000, 0x80 + point / 0x40 % 0x40, 0x80 + point % 0x40]
  else
    [0xF0 + point / 0x40000, 0x80 + point / 0x1000 % 0x40, 0x80 + point / 0x40 % 0x40,
      0x80 + point % 0x40]

/-- Where a range is cut because the bytes after the first, with so many code points between them,
do not run over all of their values. -/
def alignmentCut? (first last block : Nat) : Option Nat :=
  if first / block = last / block then none
  else if first % block ≠ 0 then some ((first / block + 1) * block)
  else if last % block ≠ block - 1 then some (last / block * block)
  else none

/-- The first code point after the place where a range is cut. -/
def cut? (first last : Nat) : Option Nat :=
  match [0x7F, 0x7FF, 0xFFFF].find? fun greatest => first ≤ greatest && greatest < last with
  | some greatest => some (greatest + 1)
  | none =>
    if last ≤ 0x7F then none
    else [0x40, 0x1000, 0x40000].findSome? fun block => alignmentCut? first last block

/-- The pieces of a range that one sequence of ranges of bytes writes. -/
def pieces (first last : Nat) : List (Nat × Nat) :=
  match cut? first last with
  | none => [(first, last)]
  | some middle =>
    if _inside : first < middle ∧ middle ≤ last then pieces first (middle - 1) ++ pieces middle last
    else [(first, last)]
termination_by last - first

/-- Code points that are no characters: they come in pairs in other encodings. -/
def surrogates : CharSet := .range 0xD800 0xDFFF

/-- The sequences of ranges of bytes that write the characters of a set. -/
def sequences (set : CharSet) : List (List ByteRange) :=
  (set.difference surrogates).ranges.flatMap fun (first, last) =>
    (pieces first last).map fun (first, last) => (bytesOf first).zipWith ByteRange.mk (bytesOf last)

/-- Ascending sequences by their first ranges: each with what comes after it. -/
def byFirst (sequences : List (List ByteRange)) : List (ByteRange × List (List ByteRange)) :=
  (sequences.splitBy fun a b => a.head? == b.head?).filterMap fun shared => do
    let range ← shared.head?.bind List.head?
    return (range, shared.map List.tail)

/-- What is left of ascending sequences after each beginning of theirs that does not end one: first all
of them, and then what is left of those with a first range. None is longer than the given number. -/
def remainders : (length : Nat) → List (List ByteRange) → List (List (List ByteRange))
  | 0, _ | _, [] :: _ => []
  | length + 1, sequences =>
    sequences :: (byFirst sequences).flatMap fun (_, rest) => remainders length rest

end AccessControl.Regex
