/-!
Glob patterns: a star stands for any run of characters, none included, and every other character
for itself. Pattern and value are compared byte by byte. A star is first left empty; each time that the
comparison fails behind it, it takes one byte more of the value, and what follows it in the pattern is
tried anew on the rest. Only the last star is ever taken up again.

Path patterns are globs by segments: key and pattern are cut at every slash and compared segment by segment. A
segment `:name` takes any segment that is not empty, a segment with a star is a glob within its segment, and
a last segment that is a star alone takes all that is left, which is at least one segment.
-/
namespace AccessControl
namespace Glob

/-- The byte of a star. -/
def star : UInt8 := 0x2A

/-- How far a comparison has come. -/
structure Cursor where
  /-- What is left of the pattern. -/
  pattern : List UInt8
  /-- What is left of the value. -/
  value : List UInt8
  /-- What follows the last star in the pattern, and the rest of the value on which it is being tried. -/
  retry? : Option (List UInt8 × List UInt8) := none
  behind : ∀ retry ∈ retry?, pattern.length ≤ retry.1.length := by simp

namespace Cursor

/-- The last star takes one byte more, if there is a star. -/
def back? (cursor : Cursor) : Option Cursor :=
  match cursor.retry? with
  | some (pattern, _ :: value) => some { pattern, value, retry? := some (pattern, value) }
  | _ => none

/-- One step of a comparison for which there is still a byte of the value and the bytes after it, unless
the comparison has failed. -/
def next? (cursor : Cursor) (byte : UInt8) (value : List UInt8) : Option Cursor :=
  match left : cursor.pattern with
  | [] => cursor.back?
  | first :: pattern =>
    if first = star then
      some { pattern, value := byte :: value, retry? := some (pattern, byte :: value) }
    else if first = byte then
      have behind : ∀ retry ∈ cursor.retry?, pattern.length ≤ retry.1.length := by
        intro retry last
        have longer := cursor.behind retry last
        rw [left, List.length_cons] at longer
        exact Nat.le_of_succ_le longer
      some { pattern, value, retry? := cursor.retry?, behind }
    else cursor.back?

/-- What each step makes less: first what follows the last star in the pattern, or the whole pattern before
there is a star, then the rest of the value on which that is being tried, then what is left of the value. -/
def work (cursor : Cursor) : Nat × Nat × Nat :=
  match cursor.retry? with
  | none => (cursor.pattern.length, 0, cursor.value.length)
  | some (pattern, value) => (pattern.length, value.length, cursor.value.length)

theorem back_shrinks {cursor next : Cursor} (moved : cursor.back? = some next) :
    Prod.Lex (· < ·) (Prod.Lex (· < ·) (· < ·)) next.work cursor.work := by
  unfold back? at moved
  split at moved
  next pattern _ value last =>
    cases moved
    simp only [work, last]
    exact .right _ (.left _ _ (Nat.lt_succ_self _))
  next => cases moved

theorem next_shrinks {cursor next : Cursor} {byte : UInt8} {value : List UInt8}
    (here : cursor.value = byte :: value) (moved : cursor.next? byte value = some next) :
    Prod.Lex (· < ·) (Prod.Lex (· < ·) (· < ·)) next.work cursor.work := by
  unfold next? at moved
  split at moved
  next => exact back_shrinks moved
  next first pattern left =>
    split at moved
    · cases moved
      simp only [work]
      cases last : cursor.retry? with
      | none => exact .left _ _ (by rw [left]; exact Nat.lt_succ_self _)
      | some retry =>
        have longer := cursor.behind retry last
        rw [left] at longer
        exact .left _ _ longer
    · split at moved
      · cases moved
        simp only [work]
        cases last : cursor.retry? with
        | none => exact .left _ _ (by rw [left]; exact Nat.lt_succ_self _)
        | some retry => exact .right _ (.right _ (by rw [here]; exact Nat.lt_succ_self _))
      · exact back_shrinks moved

/-- Whether the comparison comes to an end of the value where only stars are left of the pattern. -/
def succeeds (cursor : Cursor) : Bool :=
  match here : cursor.value with
  | [] => cursor.pattern.all (· == star)
  | byte :: value =>
    match moved : cursor.next? byte value with
    | some next =>
      have := next_shrinks here moved
      next.succeeds
    | none => false
termination_by cursor.work
decreasing_by assumption

end Cursor

/-- The bytes of a text. -/
def bytes (text : String) : List UInt8 := text.toUTF8.data.toList

/-- Whether the whole value matches the pattern. A star alone takes every value. -/
def matchesText (pattern value : String) : Bool :=
  pattern == "*" || Cursor.succeeds { pattern := bytes pattern, value := bytes value }

end Glob

namespace PathPattern

/-- Whether one segment of a pattern takes one segment of a key. -/
def takes (pattern key : List Char) : Bool :=
  match pattern with
  | ':' :: _ => !key.isEmpty
  | _ => if '*' ∈ pattern then Glob.matchesText (String.ofList pattern) (String.ofList key) else pattern == key

def takesAll : (patterns keys : List (List Char)) → Bool
  | [], [] => true
  | [['*']], _ :: _ => true
  | pattern :: patterns, key :: keys => takes pattern key && takesAll patterns keys
  | _, _ => false

/-- The segments of a path, which are always one more than its slashes. -/
def segments (path : String) : List (List Char) := path.toList.splitOn '/'

def matchesText (pattern key : String) : Bool := takesAll (segments pattern) (segments key)

end PathPattern
end AccessControl
