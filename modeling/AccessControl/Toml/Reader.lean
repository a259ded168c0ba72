import AccessControl.Toml.Number
import AccessControl.Toml.Time
/-!
Reading TOML documents. A document is a sequence of lines, each of which enters a table by its header
or gives a value to a key in the table entered last. Each step of reading gives what it read and the
text after it, or nothing where the text is no document. Every round of reading takes at least one
character, and so the length of the text bounds the number of rounds.
-/
namespace AccessControl.Toml

/-- The value of a word: a truth value, a whole number, a number with a fraction, or a point in time. -/
def wordValue? (word : List Char) : Option Value :=
  if word = ['t', 'r', 'u', 'e'] then some (.boolean true)
  else if word = ['f', 'a', 'l', 's', 'e'] then some (.boolean false)
  else integer? word <|> number? word <|> time? .word word

/-- A step of reading. -/
abbrev Step (α : Type) := List Char → Option (α × List Char)

/-- How deeply values may stand in each other, and how many keys a dotted key may have. -/
def nestingLimit : Nat := 79

def isPrintable (c : Char) : Bool := c == '\t' || (' ' ≤ c && c ≤ '~') || '\x7f' < c

def skipBlanks (text : List Char) : List Char := text.dropWhile fun c => c == ' ' || c == '\t'

/-- Passes over blanks, line ends and comments, which go from `#` to the end of the line. -/
def skipLines : (inComment : Bool) → List Char → Option (List Char)
  | _, [] => some []
  | _, '\n' :: rest => skipLines false rest
  | _, '\r' :: '\n' :: rest => skipLines false rest
  | true, c :: rest => if isPrintable c then skipLines true rest else none
  | false, ' ' :: rest => skipLines false rest
  | false, '\t' :: rest => skipLines false rest
  | false, '#' :: rest => skipLines true rest
  | false, text => some text

/-- Whether nothing more stands in a line but a comment. -/
def endsLine : List Char → Bool
  | [] => true
  | '\n' :: _ => true
  | '\r' :: '\n' :: _ => true
  | '#' :: _ => true
  | _ => false

/-- The text from the end of a line on, blanks before it being passed over. -/
def finishLine (text : List Char) : Option (List Char) := do
  let text := skipBlanks text
  guard (endsLine text)
  return text

/-- Puts a character before what a step reads next. -/
def keep (c : Char) (read : Option (List Char × List Char)) : Option (List Char × List Char) :=
  read.map fun (value, rest) => (c :: value, rest)

/-- The character that one letter after a backslash stands for. -/
def escape? : Char → Option Char
  | 'b' => some '\x08'
  | 't' => some '\t'
  | 'n' => some '\n'
  | 'f' => some '\x0c'
  | 'r' => some '\r'
  | '"' => some '"'
  | '\\' => some '\\'
  | _ => none

def codePoint? (digits : List Char) : Option Char := do
  guard (digits.all Text.isHexDigit)
  let code := Text.numberOf 16 digits
  guard code.isValidChar
  return Char.ofNat code

/-- The rest of a text in double quotes that ends in its line. -/
def readBasic : Step (List Char)
  | [] => none
  | '"' :: rest => some ([], rest)
  | '\\' :: 'u' :: a :: b :: c :: d :: rest => do keep (← codePoint? [a, b, c, d]) (readBasic rest)
  | '\\' :: 'U' :: a :: b :: c :: d :: e :: f :: g :: h :: rest => do
    keep (← codePoint? [a, b, c, d, e, f, g, h]) (readBasic rest)
  | '\\' :: c :: rest => do keep (← escape? c) (readBasic rest)
  | c :: rest => if isPrintable c && c != '\\' then keep c (readBasic rest) else none

/-- The rest of a text in single quotes that ends in its line. -/
def readLiteral : Step (List Char)
  | [] => none
  | '\'' :: rest => some ([], rest)
  | c :: rest => if isPrintable c then keep c (readLiteral rest) else none

/-- Whether a line ends here, when blanks do not count. -/
def isLineEnd (text : List Char) : Bool :=
  match skipBlanks text with
  | '\n' :: _ => true
  | '\r' :: '\n' :: _ => true
  | _ => false

/-- The rest of a text in three double quotes. Up to two quotes may stand before the last three. A
backslash at the end of a line takes the line end and all blanks and line ends after it away; that is
where `joining` holds. -/
def readLongBasic : (joining : Bool) → Step (List Char)
  | _, [] => none
  | true, ' ' :: rest => readLongBasic true rest
  | true, '\t' :: rest => readLongBasic true rest
  | true, '\n' :: rest => readLongBasic true rest
  | true, '\r' :: '\n' :: rest => readLongBasic true rest
  | _, '"' :: '"' :: '"' :: '"' :: '"' :: rest => some (['"', '"'], rest)
  | _, '"' :: '"' :: '"' :: '"' :: rest => some (['"'], rest)
  | _, '"' :: '"' :: '"' :: rest => some ([], rest)
  | _, '\r' :: '\n' :: rest => keep '\n' (readLongBasic false rest)
  | _, '\n' :: rest => keep '\n' (readLongBasic false rest)
  | _, '\\' :: 'u' :: a :: b :: c :: d :: rest => do
    keep (← codePoint? [a, b, c, d]) (readLongBasic false rest)
  | _, '\\' :: 'U' :: a :: b :: c :: d :: e :: f :: g :: h :: rest => do
    keep (← codePoint? [a, b, c, d, e, f, g, h]) (readLongBasic false rest)
  | _, '\\' :: c :: rest =>
    if isLineEnd (c :: rest) then readLongBasic true rest
    else do keep (← escape? c) (readLongBasic false rest)
  | _, c :: rest => if isPrintable c && c != '\\' then keep c (readLongBasic false rest) else none

/-- The rest of a text in three single quotes. Up to two quotes may stand before the last three. -/
def readLongLiteral : Step (List Char)
  | [] => none
  | '\'' :: '\'' :: '\'' :: '\'' :: '\'' :: rest => some (['\'', '\''], rest)
  | '\'' :: '\'' :: '\'' :: '\'' :: rest => some (['\''], rest)
  | '\'' :: '\'' :: '\'' :: rest => some ([], rest)
  | '\r' :: '\n' :: rest => keep '\n' (readLongLiteral rest)
  | '\n' :: rest => keep '\n' (readLongLiteral rest)
  | c :: rest => if isPrintable c then keep c (readLongLiteral rest) else none

/-- The text without the line end that it may start with. -/
def dropLineEnd : List Char → List Char
  | '\n' :: rest => rest
  | '\r' :: '\n' :: rest => rest
  | text => text

/-- Reads a text in quotes of any kind, if one stands here. -/
def readText? : List Char → Option (Option (List Char × List Char))
  | '"' :: '"' :: '"' :: rest => some (readLongBasic false (dropLineEnd rest))
  | '\'' :: '\'' :: '\'' :: rest => some (readLongLiteral (dropLineEnd rest))
  | '"' :: rest => some (readBasic rest)
  | '\'' :: rest => some (readLiteral rest)
  | _ => none

/-- A character of a key without quotes. -/
def isBare (c : Char) : Bool := c.isAlphanum || c == '_' || c == '-'

/-- Reads a key without dots. -/
def readKey : Step String
  | '"' :: rest => (readBasic rest).map fun (key, rest) => (String.ofList key, rest)
  | '\'' :: rest => (readLiteral rest).map fun (key, rest) => (String.ofList key, rest)
  | text => do
    let key := text.takeWhile isBare
    guard !key.isEmpty
    return (String.ofList key, text.drop key.length)

/-- Reads keys with dots between them, and the blanks around each. -/
def readKeys : (limit : Nat) → Step (List String)
  | 0, _ => none
  | limit + 1, text => do
    let (key, rest) ← readKey (skipBlanks text)
    match skipBlanks rest with
    | '.' :: rest =>
      let (keys, rest) ← readKeys limit rest
      return (key :: keys, rest)
    | rest => return ([key], rest)

def endsWord (c : Char) : Bool := " \t\r\n,]#\x7d".toList.contains c

/-- Reads a word, or the two words of a date and a time. -/
def readWord : Step Value := fun text => do
  let word := text.takeWhile (!endsWord ·)
  let rest := text.drop word.length
  let whole :=
    match cutDate word, rest with
    | some (_, []), ' ' :: digit :: more =>
      if digit.isDigit then word ++ ' ' :: (digit :: more).takeWhile (!endsWord ·) else word
    | _, _ => word
  return (← wordValue? whole, text.drop whole.length)

/-- Reads the items of an array after its opening bracket, each by `item`. -/
def readItems (item : Step Value) : (rounds : Nat) → Step (List Value)
  | 0, _ => none
  | rounds + 1, text => do
    match ← skipLines false text with
    | ']' :: rest => return ([], rest)
    | text =>
      let (value, rest) ← item text
      match ← skipLines false rest with
      | ',' :: rest =>
        let (values, rest) ← readItems item rounds rest
        return (value :: values, rest)
      | ']' :: rest => return ([value], rest)
      | _ => none

/-- Reads a key and its value, which `item` reads. -/
def readEntry (item : Step Value) : Step (List String × Value) := fun text => do
  let (path, rest) ← readKeys nestingLimit text
  let (value, rest) ← item (skipBlanks (← expect '=' rest))
  return ((path, value), rest)

/-- Reads the entries of a table in braces after its opening brace, each value by `item`. -/
def readEntries (item : Step Value) : (rounds : Nat) → Entries → Step Entries
  | 0, _, _ => none
  | rounds + 1, entries, text => do
    let ((path, value), rest) ← readEntry item text
    let entries ← entries.define value path
    match skipBlanks rest with
    | ',' :: rest => readEntries item rounds entries rest
    | '\x7d' :: rest => return (entries, rest)
    | _ => none

def readValue : (nesting : Nat) → Step Value
  | nesting, '[' :: rest =>
    match nesting with
    | 0 => none
    | nesting + 1 =>
      (readItems (readValue nesting) (rest.length + 1) rest).map fun (items, rest) => (.array items, rest)
  | nesting, '\x7b' :: rest =>
    match nesting, skipBlanks rest with
    | 0, _ => none
    | _, '\x7d' :: rest => some (.table [], rest)
    | nesting + 1, rest =>
      (readEntries (readValue nesting) rest.length [] rest).map fun (entries, rest) =>
        (.table (finishEntries entries), rest)
  | _, text =>
    match readText? text with
    | some read => read.map fun (value, rest) => (.text (String.ofList value), rest)
    | none => readWord text

/-- Reads lines, `header` being the keys of the table that was entered last. -/
def readLines : (rounds : Nat) → (header : List String) → Entries → List Char → Option Entries
  | 0, _, _, _ => none
  | rounds + 1, header, entries, text => do
    match ← skipLines false text with
    | [] => return entries
    | '[' :: '[' :: rest =>
      let (path, rest) ← readKeys nestingLimit rest
      let rest ← finishLine (← expect ']' (← expect ']' rest))
      readLines rounds path (← entries.openElement path) rest
    | '[' :: rest =>
      let (path, rest) ← readKeys nestingLimit rest
      let rest ← finishLine (← expect ']' rest)
      readLines rounds path (← entries.openTable path) rest
    | text =>
      let ((path, value), rest) ← readEntry (readValue nestingLimit) text
      readLines rounds header (← entries.defineUnder header value path) (← finishLine rest)

/-- The entries of the document that a text holds. A byte order mark in front does not count. -/
def ofText? (text : String) : Option (List (String × Value)) :=
  let text :=
    match text.toList with
    | '\ufeff' :: rest => rest
    | text => text
  (readLines (text.length + 1) [] [] text).bind fun entries => timedEntries? (finishEntries entries)

end AccessControl.Toml
