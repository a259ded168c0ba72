/-!
JSON texts over several lines: every item and every entry stands on a line of its own, two blanks
further in than what holds it. An empty list or record stays on its line.
-/
namespace AccessControl.Text

/-- A JSON value without numbers and nulls. -/
inductive Json where
  | boolean (value : Bool)
  | text (value : String)
  | list (items : List Json)
  | record (entries : List (String × Json))
deriving Repr, Inhabited

namespace Json

/-- A character as it stands in a JSON text. -/
def escapeChar (c : Char) : List Char :=
  match c with
  | '"' => ['\\', '"']
  | '\\' => ['\\', '\\']
  | '\x08' => ['\\', 'b']
  | '\t' => ['\\', 't']
  | '\n' => ['\\', 'n']
  | '\x0c' => ['\\', 'f']
  | '\r' => ['\\', 'r']
  | c =>
    if c < ' ' then
      ['\\', 'u', '0', '0', Nat.digitChar (c.toNat / 16), Nat.digitChar (c.toNat % 16)]
    else [c]

def quote (text : String) : String := String.ofList ('"' :: (text.toList.flatMap escapeChar ++ ['"']))

/-- Lines between two brackets, with commas after all but the last. -/
def enclose (opening closing : String) : (blocks : List (List String)) → List String
  | [] => [opening ++ closing]
  | blocks =>
    let ended := fun (block : List String) => block.dropLast ++ [block.getLast?.getD "" ++ ","]
    let lines := (blocks.dropLast.map ended ++ [blocks.getLast?.getD []]).flatten
    opening :: (lines.map ("  " ++ ·) ++ [closing])

/-- The lines of an entry, which starts on the first line of its value. -/
def entryLines (key : String) : (value : List String) → List String
  | [] => []
  | first :: rest => (quote key ++ ": " ++ first) :: rest

mutual

def lines : Json → List String
  | boolean value => [if value then "true" else "false"]
  | text value => [quote value]
  | list items => enclose "[" "]" (itemLines items)
  | record entries => enclose "\x7b" "\x7d" (recordLines entries)

/-- The lines of each item. -/
def itemLines : List Json → List (List String)
  | [] => []
  | item :: rest => item.lines :: itemLines rest

/-- The lines of each entry. -/
def recordLines : List (String × Json) → List (List String)
  | [] => []
  | (key, value) :: rest => entryLines key value.lines :: recordLines rest

end

def write (value : Json) : String := "\n".intercalate value.lines

end Json
end AccessControl.Text
