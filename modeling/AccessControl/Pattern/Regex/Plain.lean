import AccessControl.Pattern.Regex.Bytes
import AccessControl.Pattern.Regex.Shape
/-!
Plain regular expressions: nothing in them stands there for the eye only. Groups that are not remembered
are gone, characters in a row are one text, branches that are single characters are one set, and what
matches only the empty text is not repeated. `Plain.ofShape` gives the plain form of a shape.
-/
namespace AccessControl.Regex

/-- A plain regular expression. -/
inductive Plain where
  | empty
  | literal (text : List Char)
  | set (chars : CharSet)
  | look (condition : Look)
  | repeated (least : Nat) (most? : Option Nat) (body : Plain)
  | group (body : Plain)
  | sequence (parts : List Plain)
  | either (branches : List Plain)
deriving Inhabited

namespace Plain

mutual

/-- Whether the expression can match, and then only the empty text. -/
def onlyEmpty : Plain → Bool
  | empty | look _ => true
  | literal _ | set _ => false
  | repeated _ _ body => onlyEmpty body
  | group body => onlyEmpty body
  | sequence parts => allOnlyEmpty parts
  | either branches => allOnlyEmpty branches

/-- Whether each expression can match, and then only the empty text. -/
def allOnlyEmpty : List Plain → Bool
  | [] => true
  | part :: rest => onlyEmpty part && allOnlyEmpty rest

end

mutual

/-- Whether the expression may match the empty text. -/
def mayBeEmpty : Plain → Bool
  | empty | look _ => true
  | literal _ | set _ => false
  | repeated least _ body => least == 0 || mayBeEmpty body
  | group body => mayBeEmpty body
  | sequence parts => allMayBeEmpty parts
  | either branches => anyMayBeEmpty branches

/-- Whether each expression may match the empty text. -/
def allMayBeEmpty : List Plain → Bool
  | [] => true
  | part :: rest => mayBeEmpty part && allMayBeEmpty rest

/-- Whether some expression may match the empty text. -/
def anyMayBeEmpty : List Plain → Bool
  | [] => false
  | branch :: rest => mayBeEmpty branch || anyMayBeEmpty rest

end

def ofSet (chars : CharSet) : Plain :=
  let chars := chars.difference surrogates
  match chars.ranges with
  | [(first, last)] => if first = last then literal [Char.ofNat first] else set chars
  | _ => set chars

def parts : Plain → List Plain
  | empty => []
  | sequence parts => parts
  | part => [part]

/-- A part before others, where texts that meet become one. -/
def cons : Plain → List Plain → List Plain
  | literal text, literal text' :: rest => literal (text ++ text') :: rest
  | part, rest => part :: rest

def ofParts (given : List Plain) : Plain :=
  match (given.flatMap parts).foldr cons [] with
  | [] => empty
  | [part] => part
  | parts => sequence parts

def branches : Plain → List Plain
  | either branches => branches
  | branch => [branch]

def char? : Plain → Option Char
  | literal [c] => some c
  | _ => none

def chars? : Plain → Option CharSet
  | set chars => some chars
  | _ => none

def ofBranches (given : List Plain) : Plain :=
  match given.flatMap branches with
  | [] => ofSet .empty
  | [branch] => branch
  | branches =>
    match branches.mapM char?, branches.mapM chars? with
    | some chars, _ => ofSet (.ofChars chars)
    | _, some sets => ofSet (sets.foldl .union .empty)
    | _, _ => either branches

def ofRepeated (least : Nat) (most? : Option Nat) (body : Plain) : Plain :=
  let (least, most?) :=
    if body.onlyEmpty then (min least 1, some (min (most?.getD 1) 1)) else (least, most?)
  if most? = some 0 then empty
  else if least = 1 ∧ most? = some 1 then body
  else repeated least most? body

mutual

def ofShape : Shape → Plain
  | .nothing | .flags => empty
  | .chars chars _ => ofSet chars
  | .look condition => look condition
  | .repeated least most? body => ofRepeated least most? (ofShape body)
  | .group remembered body => if remembered then group (ofShape body) else ofShape body
  | .either branches => ofBranches (ofShapes branches)
  | .sequence parts => ofParts (ofShapes parts)

def ofShapes : List Shape → List Plain
  | [] => []
  | shape :: rest => ofShape shape :: ofShapes rest

end

end Plain
end AccessControl.Regex
