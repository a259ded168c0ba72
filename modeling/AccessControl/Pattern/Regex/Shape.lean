import AccessControl.Unicode.Word
/-!
The shape of a regular expression, with all flags already taken into account.
-/
namespace AccessControl.Regex

/-- Which places between characters, seen from the edges of words, a condition holds at. -/
inductive WordEdge where
  | boundary
  | noBoundary
  | start
  | finish
  | startHalf
  | finishHalf
deriving DecidableEq, Repr

/-- A condition on the place between two characters. -/
inductive Look where
  | textStart
  | textEnd
  | lineStart
  | lineEnd
  | anyLineStart
  | anyLineEnd
  | word (edge : WordEdge) (ascii : Bool)
deriving DecidableEq, Repr

/-- Whether there is a character of a word. -/
def isWord (ascii : Bool) (c? : Option Char) : Bool :=
  c?.any (if ascii then Unicode.asciiWordCharacters else Unicode.wordCharacters).contains

/-- Whether an edge is between two characters, given which of them belong to words. -/
def WordEdge.holds (edge : WordEdge) (before after : Bool) : Bool :=
  match edge with
  | boundary => before != after
  | noBoundary => before == after
  | start => !before && after
  | finish => before && !after
  | startHalf => !before
  | finishHalf => !after

/-- Whether a condition holds between two characters, none being there at an end of the text. A line
of the plain kind ends at a line feed; one of the other kind ends at a carriage return too, and the
two together are one line end. -/
def Look.holds (look : Look) (before? after? : Option Char) : Bool :=
  match look with
  | textStart => before?.isNone
  | textEnd => after?.isNone
  | lineStart => before?.all (· == '\n')
  | lineEnd => after?.all (· == '\n')
  | anyLineStart => before?.all (· == '\n') || (before? == some '\r' && after? != some '\n')
  | anyLineEnd => after?.all (· == '\r') || (after? == some '\n' && before? != some '\r')
  | word edge ascii => edge.holds (isWord ascii before?) (isWord ascii after?)

/-- A regular expression. A set tells how deeply its text was nested, and a group whether what it matches
is remembered. -/
inductive Shape where
  | nothing
  | flags
  | chars (set : CharSet) (depth : Nat)
  | look (condition : Look)
  | repeated (least : Nat) (most? : Option Nat) (body : Shape)
  | group (remembered : Bool) (body : Shape)
  | either (branches : List Shape)
  | sequence (parts : List Shape)
deriving Repr, Inhabited

namespace Shape

mutual

def depth : Shape → Nat
  | nothing | flags | look _ => 0
  | chars _ depth => depth
  | repeated _ _ body => depth body + 1
  | group _ body => depth body + 1
  | either branches => depthAll branches + 1
  | sequence parts => depthAll parts + 1

def depthAll : List Shape → Nat
  | [] => 0
  | shape :: rest => max (depth shape) (depthAll rest)

end

def ofBranches : List Shape → Shape
  | [] => nothing
  | [shape] => shape
  | branches => either branches

/-- The shape that has all of the parts in order. -/
def ofParts : List Shape → Shape
  | [] => nothing
  | [shape] => shape
  | parts => sequence parts

end Shape
end AccessControl.Regex
