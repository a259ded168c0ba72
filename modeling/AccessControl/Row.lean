import AccessControl.Rule
import AccessControl.Text.Layout
/-!
Rows of a policy text. A row is a line of cells with commas between them, the first cell being the
type of the rule. Blanks around a cell do not count. A cell in double quotes may hold commas and
outer blanks, and a quote inside it is written twice.
-/
namespace AccessControl.Row
open Text

/-- Why a line is no rule, or a rule is no row. -/
inductive Fault where
  | unterminatedQuote
  | textAfterQuote
  | missingType
  | noFields (type : String)
  | tooWide (type : String) (fields limit : Nat)
deriving DecidableEq, Repr

/-- The content of a quoted cell whose first quote has been read, and the text after its last. -/
def readQuoted : List Char → Option (List Char × List Char)
  | [] => none
  | '"' :: '"' :: rest => (readQuoted rest).map fun (value, after) => ('"' :: value, after)
  | '"' :: rest => some ([], rest)
  | c :: rest => (readQuoted rest).map fun (value, after) => (c :: value, after)

theorem length_of_readQuoted {text value after : List Char}
    (read : readQuoted text = some (value, after)) : after.length < text.length := by
  fun_induction readQuoted text generalizing value with
  | case1 => simp at read
  | case2 rest ih =>
    obtain ⟨⟨inner, left⟩, found, same⟩ := Option.map_eq_some_iff.1 read
    simp at same
    have shorter := ih (same.2 ▸ found)
    simp only [List.length_cons]
    omega
  | case3 rest =>
    simp at read
    simp [read.2]
  | case4 c rest _ _ ih =>
    obtain ⟨⟨inner, left⟩, found, same⟩ := Option.map_eq_some_iff.1 read
    simp at same
    have shorter := ih (same.2 ▸ found)
    simp only [List.length_cons]
    omega

theorem length_trimStart_le (text : List Char) : (trimStart text).length ≤ text.length :=
  (List.dropWhile_sublist _).length_le

def readCells (text : List Char) : Except Fault (List String) :=
  match start : trimStart text with
  | '"' :: body =>
    match read : readQuoted body with
    | none => .error .unterminatedQuote
    | some (value, after) =>
      match next : trimStart after with
      | [] => .ok [String.ofList value]
      | ',' :: rest =>
        have : rest.length < text.length := by
          have h₁ := length_trimStart_le text
          have h₂ := length_of_readQuoted read
          have h₃ := length_trimStart_le after
          simp only [start, next, List.length_cons] at h₁ h₃
          omega
        (readCells rest).map (String.ofList value :: ·)
      | _ => .error .textAfterQuote
  | bare =>
    let value := String.ofList (trimEnd (bare.takeWhile (· != ',')))
    match next : bare.dropWhile (· != ',') with
    | [] => .ok [value]
    | _ :: rest =>
      have : rest.length < text.length := by
        have h₁ := length_trimStart_le text
        have h₂ : (bare.dropWhile (· != ',')).length ≤ bare.length :=
          (List.dropWhile_sublist _).length_le
        simp only [start, next, List.length_cons] at h₁ h₂
        omega
      (readCells rest).map (value :: ·)
termination_by text.length

def read (line : List Char) : Except Fault Rule := do
  match ← readCells line with
  | [] | "" :: _ => .error .missingType
  | [type] => .error (.noFields type)
  | type :: fields => .ok ⟨type, fields⟩

def needsQuotes (field : List Char) : Bool :=
  field.any (fun c => c == ',' || c == '"') || field.head?.any isSpace || field.getLast?.any isSpace

/-- The text with every quote doubled. -/
def doubleQuotes : List Char → List Char
  | [] => []
  | c :: rest => if c = '"' then '"' :: '"' :: doubleQuotes rest else c :: doubleQuotes rest

def writeField (field : List Char) : List Char :=
  if needsQuotes field then '"' :: (doubleQuotes field ++ ['"']) else field

/-- A rule as a row, without a line end. Its type is written as it is. -/
def write (rule : Rule) : List Char :=
  rule.type.toList ++ rule.fields.flatMap fun field => ',' :: ' ' :: writeField field.toList

end AccessControl.Row
