import AccessControl.Pattern.PatternCache
import AccessControl.Pattern.Regex.Automaton
import AccessControl.Pattern.Regex.Reader
/-!
The engine that the program is run with. It reads an expression, weighs it, and makes its automaton. An
expression is weighed by an automaton whose states take bytes, not characters, and by another one that goes
from the end of the text to its start; neither may take more than ten mebibytes. A state takes 32 bytes, each
range of bytes in a state with several of them 8, and each way out of a fork 4. A repetition has the states of
its body once for each round. A choice between thousands of texts is not weighed, since these are looked for
together without such automata.
-/
namespace AccessControl.Regex

/-- What the states of a part take: their number, the bytes beside them, and whether the last of them is
a fork. -/
structure Cost where
  states : Nat
  beside : Nat := 0
  fork : Bool := false
deriving DecidableEq, Repr, Inhabited

namespace Cost

def bytes (cost : Cost) : Nat := 32 * cost.states + cost.beside

/-- The bytes that it takes to go on from a part: a fork gets one more way out. -/
def link (cost : Cost) : Nat := if cost.fork then 4 else 0

/-- A part with another one after it. -/
def andThen (a b : Cost) : Cost :=
  { states := a.states + b.states, beside := a.beside + a.link + b.beside, fork := b.fork }

/-- Parts in a row, a single state if there are none. -/
def inRow : List Cost → Cost
  | [] => { states := 1 }
  | cost :: rest => rest.foldl andThen cost

def times (cost : Cost) : (count : Nat) → Cost
  | 0 => { states := 1 }
  | count + 1 =>
    { states := (count + 1) * cost.states
      beside := (count + 1) * cost.beside + count * cost.link
      fork := cost.fork }

/-- A repetition. A part that may match the empty text needs more states to be repeated any number of
times, so that its choices are tried in order. -/
def repeated (cost : Cost) (mayBeEmpty : Bool) (least : Nat) (most? : Option Nat) : Cost :=
  let first := cost.times least
  match least, most? with
  | 0, some 1 => { states := cost.states + 2, beside := cost.beside + cost.link + 8 }
  | 0, none =>
    if mayBeEmpty then { states := cost.states + 3, beside := cost.beside + cost.link + 16 }
    else { states := cost.states + 1, beside := cost.beside + cost.link + 4, fork := true }
  | _, none => { states := first.states + 1, beside := first.beside + first.link + 4, fork := true }
  | least, some most =>
    if least = most then first
    else
      { states := first.states + 1 + (most - least) * (cost.states + 1)
        beside := first.beside + first.link + (most - least) * (cost.beside + cost.link + 8) }

/-- Branches, between a fork that leads to them and a state after them. -/
def choice (branches : List Cost) : Cost :=
  { states := branches.foldl (fun sum cost => sum + cost.states) 2
    beside := branches.foldl (fun sum cost => sum + (cost.beside + cost.link + 4)) 0 }

/-- A group that is remembered, with a state before it and one after it. -/
def group (cost : Cost) : Cost := { states := cost.states + 2, beside := cost.beside + cost.link }

/-- A set. The ranges of one that is all ASCII are in a single state. Otherwise states forward are
shared by all beginnings after which the same sequences of bytes are left, and states backward by all
sequences with the same beginning. -/
def ofSet (backward : Bool) (chars : CharSet) : Cost :=
  let sequences := sequences chars
  if chars.isAscii then { states := 2, beside := 8 * sequences.length }
  else
    let remainders := remainders 4 sequences
    let ranges := fun remainders => remainders.foldl (fun sum rest => sum + (byFirst rest).length) 0
    if backward then { states := 2 + ranges remainders, beside := 4 * sequences.length }
    else
      let remainders := remainders.eraseDups
      { states := 1 + remainders.length, beside := 8 * ranges remainders }

end Cost

namespace Plain

mutual

/-- What the states of an expression take. Groups are remembered forward only. -/
def cost (backward : Bool) : Plain → Cost
  | empty | look _ => { states := 1 }
  | literal text => { states := (text.flatMap fun c => bytesOf c.toNat).length }
  | set chars => .ofSet backward chars
  | repeated least most? body => (cost backward body).repeated body.mayBeEmpty least most?
  | group body => if backward then cost backward body else (cost backward body).group
  | sequence parts =>
    let costs := costs backward parts
    .inRow (if backward then costs.reverse else costs)
  | either branches => .choice (costs backward branches)

def costs (backward : Bool) : List Plain → List Cost
  | [] => []
  | part :: rest => cost backward part :: costs backward rest

end

/-- What the whole automaton of an expression takes. A match may start anywhere, which takes a loop before
it, and the last state accepts. -/
def wholeCost (backward : Bool) (plain : Plain) : Cost :=
  .inRow [{ states := 3, beside := 12, fork := true },
    cost backward (if backward then plain else .group plain), { states := 1 }]

def memoryLimit : Nat := 10 <<< 20

/-- The number of texts from which on a choice between texts takes no automaton. -/
def manyTexts : Nat := 3000

def isText : Plain → Bool
  | literal _ => true
  | _ => false

/-- Whether the expression is a choice between many texts and nothing else. -/
def isManyTexts : Plain → Bool
  | either branches => manyTexts ≤ branches.length && branches.all isText
  | _ => false

/-- Whether the automata of both directions are within the limit, if there are any. -/
def fits (plain : Plain) : Bool :=
  plain.isManyTexts || [false, true].all fun backward => (plain.wholeCost backward).bytes ≤ memoryLimit

end Plain

/-- The engine by automata. What it compiles tells whether a run of the automaton accepts anywhere. -/
instance automata : Engine where
  compile? source := do
    let plain := Plain.ofShape (← Shape.ofText? source.toList)
    guard plain.fits
    let automaton := Automaton.ofPlain plain
    return ⟨fun value => automaton.search none [] value.toList⟩

end AccessControl.Regex
