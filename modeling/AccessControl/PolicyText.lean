import AccessControl.Error
import AccessControl.Text.Layout
/-!
Policy texts: one rule to a line. Blank lines and lines that start with `#` are passed over. A rule
set is written with its policy rules before its grouping rules.
-/
namespace AccessControl.PolicyText
open Text

/-- Whether a trimmed line holds no rule. -/
def isSkipped (line : List Char) : Bool := line.isEmpty || line.head? == some '#'

/-- The rules of numbered lines, up to the first malformed one. -/
def readLines : List (Nat × List Char) → Except Error (List Rule)
  | [] => .ok []
  | (number, raw) :: rest =>
    let line := trim raw
    if isSkipped line then readLines rest
    else
      match Row.read line with
      | .error fault => .error (.malformedRow number fault)
      | .ok rule => (readLines rest).map (rule :: ·)

def read (text : String) : Except Error RuleSet :=
  (readLines (numberedLines text.toList)).map RuleSet.ofList

/-- The place of the first field of a rule that breaks a line. -/
def breakingField? (fields : List String) : Option Nat := fields.findIdx? breaksLine

/-- The lines of some rules, up to the first that no row can hold. -/
def writeRules : List Rule → Except Error (List Char)
  | [] => .ok []
  | rule :: rest =>
    match breakingField? rule.fields with
    | some index => .error (.lineBreak rule.type index)
    | none => (writeRules rest).map (Row.write rule ++ '\n' :: ·)

def write (rules : RuleSet) : Except Error String := (writeRules rules.toList).map String.ofList

end AccessControl.PolicyText
