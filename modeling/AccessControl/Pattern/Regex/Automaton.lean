import AccessControl.Pattern.Regex.Plain
/-!
Automata for regular expressions. A regular expression becomes a list of numbered steps; all runs of
it go over the text together, one character at a time, and a step that two runs reach counts once. So
the work is bounded by the number of steps for each character, whatever the expression.
-/
namespace AccessControl.Regex

/-- A step of an automaton, with the numbers of the steps after it. -/
inductive Step where
  | accept
  | take (set : CharSet) (next : Nat)
  | check (condition : Look) (next : Nat)
  | fork (left right : Nat)
deriving Inhabited

abbrev Steps := Array Step

/-- Adds a step; its number is the answer. -/
def addStep (step : Step) : StateM Steps Nat :=
  modifyGet fun steps => (steps.size, steps.push step)

/-- Applies a construction again and again, each time to the number that came out before. -/
def applyTimes (construction : Nat → StateM Steps Nat) : (count next : Nat) → StateM Steps Nat
  | 0, next => return next
  | count + 1, next => do applyTimes construction count (← construction next)

/-- Adds any number of rounds before `next`. -/
def addRounds (body : Nat → StateM Steps Nat) (next : Nat) : StateM Steps Nat := do
  let choice ← addStep (.fork next next)
  let start ← body choice
  modify (·.set! choice (.fork start next))
  return choice

/-- Adds at most one round before `next`, with `last` after the whole repetition. -/
def addOption (body : Nat → StateM Steps Nat) (last next : Nat) : StateM Steps Nat := do
  addStep (.fork (← body next) last)

/-- Adds the steps of a text, one for each character. -/
def addText (next : Nat) (text : List Char) : StateM Steps Nat :=
  text.foldrM (fun c next => addStep (.take (.ofChars [c]) next)) next

mutual

/-- Adds the steps of an expression before the step `next`; the number of its first step is the
answer. -/
def addPlain (next : Nat) : Plain → StateM Steps Nat
  | .empty => return next
  | .literal text => addText next text
  | .set chars => addStep (.take chars next)
  | .look condition => addStep (.check condition next)
  | .repeated least most? body => do
    let rest ← match most? with
      | none => addRounds (fun next => addPlain next body) next
      | some most => applyTimes (addOption (fun next => addPlain next body) next) (most - least) next
    applyTimes (fun next => addPlain next body) least rest
  | .group body => addPlain next body
  | .sequence parts => addParts next parts
  | .either branches => addBranches next branches

/-- Adds the steps of parts in order. -/
def addParts (next : Nat) : List Plain → StateM Steps Nat
  | [] => return next
  | part :: rest => do addPlain (← addParts next rest) part

/-- Adds the steps of branches, each of them before `next`. -/
def addBranches (next : Nat) : List Plain → StateM Steps Nat
  | [] => return next
  | [branch] => addPlain next branch
  | branch :: rest => do
    let left ← addPlain next branch
    addStep (.fork left (← addBranches next rest))

end

/-- An automaton: its steps and the first of them. -/
structure Automaton where
  steps : Steps
  start : Nat
deriving Inhabited

def Automaton.ofPlain (plain : Plain) : Automaton :=
  let (start, steps) := (addPlain 0 plain).run #[.accept]
  ⟨steps, start⟩

namespace Automaton

/-- What the runs at one place have come to: whether one has accepted, and the steps that wait for the
next character. -/
structure Front where
  accepted : Bool := false
  waiting : List (CharSet × Nat) := []

/-- Follows the steps that take no character from those on the agenda, each step once. The agenda has
at most two entries for each step, which bounds the rounds. -/
def follow (automaton : Automaton) (holds : Look → Bool) :
    (fuel : Nat) → (agenda : List Nat) → (seen : Array Bool) → Front → Front
  | 0, _, _, front => front
  | _, [], _, front => front
  | fuel + 1, step :: agenda, seen, front =>
    if seen.getD step true then automaton.follow holds fuel agenda seen front
    else
      let seen := seen.set! step true
      match automaton.steps.getD step .accept with
      | .accept => { front with accepted := true }
      | .take set next =>
        automaton.follow holds fuel agenda seen { front with waiting := (set, next) :: front.waiting }
      | .check condition next =>
        automaton.follow holds fuel (if holds condition then next :: agenda else agenda) seen front
      | .fork left right => automaton.follow holds fuel (left :: right :: agenda) seen front

/-- Whether some run accepts from here on, where a run may also start at each place. -/
def search (automaton : Automaton) (before? : Option Char) (active : List Nat) : List Char → Bool
  | [] => (front before? none).accepted
  | c :: rest =>
    let here := front before? (some c)
    here.accepted || automaton.search (some c)
      (here.waiting.filterMap fun (set, next) => if set.contains c then some next else none) rest
where
  /-- The front at a place between two characters. -/
  front (before? after? : Option Char) : Front :=
    automaton.follow (·.holds before? after?) (3 * automaton.steps.size + active.length + 2)
      (automaton.start :: active) (Array.replicate automaton.steps.size false) {}

end Automaton
end AccessControl.Regex
