import AccessControl.Text.Layout
/-!
Sets of characters, held as ascending ranges of code points with gaps between them. A set can be read
from a table that writes code points in hexadecimal: `A` is one code point, `A-B` is a range, and
`A~B` is every second code point from A to B.
-/
namespace AccessControl

/-- A set of code points: ascending ranges, first and last point included. -/
structure CharSet where
  ranges : List (Nat × Nat) := []
deriving DecidableEq, Repr, Inhabited

namespace CharSet

def lastPoint : Nat := 0x10FFFF

/-- The set without characters. -/
def empty : CharSet := ⟨[]⟩

def all : CharSet := ⟨[(0, lastPoint)]⟩

/-- Whether a point is in one of some ascending ranges. -/
def inRanges (point : Nat) : List (Nat × Nat) → Bool
  | [] => false
  | (first, last) :: rest => if point < first then false else point ≤ last || inRanges point rest

def containsPoint (set : CharSet) (point : Nat) : Bool := inRanges point set.ranges

def contains (set : CharSet) (c : Char) : Bool := set.containsPoint c.toNat

/-- Joins a range with the ascending ranges after it as long as they touch. -/
def joinFrom (first last : Nat) : List (Nat × Nat) → List (Nat × Nat)
  | [] => [(first, last)]
  | (first', last') :: rest =>
    if first' ≤ last + 1 then joinFrom first (max last last') rest
    else (first, last) :: joinFrom first' last' rest

/-- The set of all points in some ranges; a range whose last point is below its first has none. -/
def ofRanges (ranges : List (Nat × Nat)) : CharSet :=
  match (ranges.filter fun (first, last) => first ≤ last).mergeSort fun a b => a.1 ≤ b.1 with
  | [] => empty
  | (first, last) :: rest => ⟨joinFrom first last rest⟩

/-- The points from the first to the last. -/
def range (first last : Nat) : CharSet := ofRanges [(first, last)]

def ofChars (chars : List Char) : CharSet := ofRanges (chars.map fun c => (c.toNat, c.toNat))

/-- All that is in one set or the other. -/
def union (a b : CharSet) : CharSet := ofRanges (a.ranges ++ b.ranges)

/-- The gaps from a point on between ascending ranges. -/
def gaps (start : Nat) : List (Nat × Nat) → List (Nat × Nat)
  | [] => if start ≤ lastPoint then [(start, lastPoint)] else []
  | (first, last) :: rest =>
    if start < first then (start, first - 1) :: gaps (last + 1) rest else gaps (last + 1) rest

/-- All that is not in the set. -/
def complement (set : CharSet) : CharSet := ⟨gaps 0 set.ranges⟩

def intersection (a b : CharSet) : CharSet := (a.complement.union b.complement).complement

/-- All of the first set that is not in the second. -/
def difference (a b : CharSet) : CharSet := (a.complement.union b).complement

/-- All that is in exactly one of the sets. -/
def symmetricDifference (a b : CharSet) : CharSet := (a.difference b).union (b.difference a)

/-- Whether all points are ASCII. -/
def isAscii (set : CharSet) : Bool := set.ranges.all fun (_, last) => last ≤ 0x7F

def readHex (digits : String) : Nat := Text.numberOf 16 digits.toList

def readEntry (entry : String) : List (Nat × Nat) :=
  match entry.splitOn "-" with
  | [first, last] => [(readHex first, readHex last)]
  | _ =>
    match entry.splitOn "~" with
    | [first, last] =>
      let start := readHex first
      (List.range ((readHex last - start) / 2 + 1)).map fun step => (start + 2 * step, start + 2 * step)
    | _ => [(readHex entry, readHex entry)]

def ofText (lines : List String) : CharSet :=
  ofRanges (lines.flatMap fun line => (line.splitOn " ").flatMap readEntry)

def ofTexts (tables : List (List String)) : CharSet := ofText tables.flatten

end CharSet
end AccessControl
