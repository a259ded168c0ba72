import AccessControl.Pattern.Regex.Shape
import AccessControl.Text.Layout
import AccessControl.Unicode.Folding
import AccessControl.Unicode.Query
/-!
Reading regular expressions. Flags apply from where they stand to the end of their group, so they are
kept while reading and each part is read under those in force. Every round of reading takes at least
one character, and so the length of the text bounds the number of rounds. There are no look-around
conditions and no references back to a group.
-/
namespace AccessControl.Regex
open Text

/-- The flags in force. Which repetitions prefer few rounds does not matter for what matches. -/
structure Flags where
  ignoreCase : Bool := false
  multiLine : Bool := false
  dotAll : Bool := false
  unicode : Bool := true
  verbose : Bool := false
  anyLineEnd : Bool := false

/-- The text left to read, the flags in force, and the group names already given. -/
structure Reader where
  rest : List Char
  flags : Flags := {}
  names : List (List Char) := []

/-- A step of reading, which fails on a text that is no regular expression. -/
abbrev Read := StateT Reader Option

namespace Read

def rest : Read (List Char) := return (← get).rest

def setRest (rest : List Char) : Read Unit := modify fun reader => { reader with rest }

def flags : Read Flags := return (← get).flags

def setFlags (flags : Flags) : Read Unit := modify fun reader => { reader with flags }

/-- The text after blanks and comments, which go from `#` to the end of the line. -/
def skipComments : (inComment : Bool) → List Char → List Char
  | _, [] => []
  | true, c :: rest => skipComments (c != '\n') rest
  | false, c :: rest =>
    if isSpace c then skipComments false rest
    else if c = '#' then skipComments true rest
    else c :: rest

/-- What is left after blanks and comments, when they do not count. -/
def afterBlanks (text : List Char) : Read (List Char) := do
  if (← flags).verbose then return skipComments false text else return text

/-- Passes over blanks and comments, when they do not count. -/
def skipBlanks : Read Unit := do setRest (← afterBlanks (← rest))

/-- Goes on after a character, and after blanks when they do not count. -/
def goOn (text : List Char) : Read Unit := do setRest (← afterBlanks text)

/-- Goes on after a character as long as there is a text to go on with. -/
def goOnWith (text : List Char) : Read Unit := do
  goOn text
  guard !(← rest).isEmpty

end Read
open Read

/-- A set with all that equals one of its characters but for case, if case does not count. -/
def foldCase (set : CharSet) : Read CharSet := do
  let flags ← flags
  if !flags.ignoreCase then return set
  else if flags.unicode then return Unicode.closeUnderCase set
  else return Unicode.closeUnderAsciiCase set

/-- A set or its complement. Outside of Unicode mode a set is one of ASCII characters. -/
def negateIf (negated : Bool) (set : CharSet) : Read CharSet := do
  let set := if negated then set.complement else set
  guard ((← flags).unicode || set.isAscii)
  return set

/-- What a backslash and the characters after it stand for. -/
inductive Escape where
  | literal (c : Char)
  | set (set : CharSet)
  | look (condition : Look)

def isMeta (c : Char) : Bool := "\\.+*?()|[]\x7b\x7d^$#&-~".toList.contains c

/-- Whether a backslash before a character stands for the character. -/
def isEscapable (c : Char) : Bool :=
  isMeta c || (c.toNat ≤ 0x7F && !c.isAlphanum && c != '<' && c != '>')

def charOf? (digits : List Char) : Option Char :=
  let value := CharSet.readHex (String.ofList digits)
  if value.isValidChar then some (Char.ofNat value) else none

/-- Reads hexadecimal digits up to a closing brace, the text after the opening one being given. -/
def readBracedDigits : (fuel : Nat) → (digits : List Char) → Read (List Char)
  | 0, _ => failure
  | fuel + 1, digits => do
    match ← rest with
    | [] => failure
    | '\x7d' :: rest =>
      goOn rest
      return digits
    | c :: rest =>
      guard (Text.isHexDigit c)
      goOn rest
      readBracedDigits fuel (digits ++ [c])

def readDigits : (count : Nat) → Read (List Char)
  | 0 => return []
  | count + 1 => do
    match ← rest with
    | c :: rest =>
      guard (Text.isHexDigit c)
      goOn rest
      return c :: (← readDigits count)
    | [] => failure

/-- Reads a character written in hexadecimal, `width` digits or any number of them in braces. Outside
of Unicode mode two digits write a byte, which must be ASCII. -/
def readHexadecimal (width : Nat) : Read Escape := do
  match ← rest with
  | '\x7b' :: rest =>
    goOnWith rest
    let digits ← readBracedDigits (rest.length + 1) []
    guard !digits.isEmpty
    guard (digits.length ≤ 8 || (digits.take (digits.length - 8)).all (· == '0'))
    return .literal (← charOf? digits)
  | _ =>
    let c ← charOf? (← readDigits width)
    guard ((← flags).unicode || width != 2 || c.toNat ≤ 0x7F)
    return .literal c

/-- The text before and after the first occurrence of a mark. -/
def splitAt? (mark : List Char) : List Char → Option (List Char × List Char)
  | [] => none
  | c :: rest =>
    if mark.isPrefixOf (c :: rest) then some ([], (c :: rest).drop mark.length)
    else (splitAt? mark rest).map fun (before, after) => (c :: before, after)

/-- The set that the text in the braces of a property stands for, and whether it is its complement. -/
def property? (text : List Char) : Option (CharSet × Bool) :=
  match splitAt? ['!', '='] text with
  | some (name, value) => (Unicode.valued? name value).map (·, true)
  | none =>
    match splitAt? [':'] text <|> splitAt? ['='] text with
    | some (name, value) => (Unicode.valued? name value).map (·, false)
    | none => (Unicode.named? text).map (·, false)

/-- Reads the name of a property up to a closing brace. -/
def readBraced : (fuel : Nat) → Read (List Char)
  | 0 => failure
  | fuel + 1 => do
    match ← rest with
    | [] => failure
    | '\x7d' :: rest =>
      setRest rest
      return []
    | c :: rest =>
      goOn rest
      return c :: (← readBraced fuel)

/-- Reads a property, one letter or more in braces. There are none outside of Unicode mode. -/
def readProperty (negated : Bool) : Read Escape := do
  guard (← flags).unicode
  match ← rest with
  | '\x7b' :: rest =>
    goOn rest
    let (set, inverse) ← property? (← readBraced (rest.length + 1))
    return .set (← negateIf (negated != inverse) (← foldCase set))
  | c :: rest =>
    guard (c != '\\')
    goOn rest
    let (set, _) ← property? [c]
    return .set (← negateIf negated (← foldCase set))
  | [] => failure

def edgeOfName? (name : List Char) : Option WordEdge :=
  match String.ofList name with
  | "start" => some .start
  | "end" => some .finish
  | "start-half" => some .startHalf
  | "end-half" => some .finishHalf
  | _ => none

def namesEdge (c : Char) : Bool := c.isAlpha || c == '-'

/-- Reads the name of a word condition up to a closing brace. -/
def readEdgeName : (fuel : Nat) → Read (List Char)
  | 0 => failure
  | fuel + 1 => do
    match ← rest with
    | '\x7d' :: rest =>
      setRest rest
      return []
    | c :: rest =>
      guard (namesEdge c)
      goOn rest
      return c :: (← readEdgeName fuel)
    | [] => failure

/-- Reads the condition of `\b`, which may have a name in braces after it. Braces that do not start
with a letter or a hyphen are those of a repetition. -/
def readBoundary : Read Escape := do
  let ascii := !(← flags).unicode
  let text ← rest
  match text with
  | '\x7b' :: rest =>
    goOnWith rest
    if (← Read.rest).head?.any namesEdge then
      return .look (.word (← edgeOfName? (← readEdgeName (rest.length + 1))) ascii)
    else
      setRest text
      return .look (.word .boundary ascii)
  | _ => return .look (.word .boundary ascii)

def letterClass (negated : Bool) (unicode ascii : CharSet) : Read Escape := do
  return .set (← negateIf negated (if (← flags).unicode then unicode else ascii))

/-- Reads an escape, the text after the backslash being given. -/
def readEscape : Read Escape := do
  match ← rest with
  | [] => failure
  | c :: rest =>
    let ascii := !(← flags).unicode
    let special := fun (escape : Escape) => do
      setRest rest
      return escape
    match c with
    | 'x' => goOnWith rest; readHexadecimal 2
    | 'u' => goOnWith rest; readHexadecimal 4
    | 'U' => goOnWith rest; readHexadecimal 8
    | 'p' => goOnWith rest; readProperty false
    | 'P' => goOnWith rest; readProperty true
    | 'd' => setRest rest; letterClass false Unicode.digits Unicode.asciiDigits
    | 'D' => setRest rest; letterClass true Unicode.digits Unicode.asciiDigits
    | 's' => setRest rest; letterClass false Unicode.blanks Unicode.asciiBlanks
    | 'S' => setRest rest; letterClass true Unicode.blanks Unicode.asciiBlanks
    | 'w' => setRest rest; letterClass false Unicode.wordCharacters Unicode.asciiWordCharacters
    | 'W' => setRest rest; letterClass true Unicode.wordCharacters Unicode.asciiWordCharacters
    | 'a' => special (.literal '\x07')
    | 'f' => special (.literal '\x0c')
    | 't' => special (.literal '\t')
    | 'n' => special (.literal '\n')
    | 'r' => special (.literal '\r')
    | 'v' => special (.literal '\x0b')
    | 'A' => special (.look .textStart)
    | 'z' => special (.look .textEnd)
    | 'b' => setRest rest; readBoundary
    | 'B' => special (.look (.word .noBoundary ascii))
    | '<' => special (.look (.word .start ascii))
    | '>' => special (.look (.word .finish ascii))
    | c => if isEscapable c then special (.literal c) else failure

/-- Reads one item of a class: an escape or a character. -/
def readItem : Read Escape := do
  match ← rest with
  | '\\' :: rest =>
    setRest rest
    guard !rest.isEmpty
    readEscape
  | c :: rest =>
    setRest rest
    return .literal c
  | [] => failure

/-- The character of an item, which an end of a range must be. -/
def Escape.literal? : Escape → Option Char
  | .literal c => some c
  | _ => none

/-- The set of an item. A condition on places is none. -/
def Escape.toSet? : Escape → Option CharSet
  | .literal c => some (.ofChars [c])
  | .set chars => some chars
  | .look _ => none

/-- A set that literal characters make. Outside of Unicode mode they must be ASCII. -/
def checkLiteral (set : CharSet) : Read CharSet := do
  guard ((← flags).unicode || set.isAscii)
  return set

/-- The character by which it is told whether a hyphen makes a range, the text after the hyphen being
given. When blanks and comments do not count, this is the first that is no blank; of a comment only the
mark is passed over, and blanks after it, line ends among them. When nothing but these is left, it is the
one right after the hyphen. -/
def afterHyphen? (text : List Char) : Read (Option Char) := do
  if (← flags).verbose then
    let solid := match text.dropWhile isSpace with
      | '#' :: comment => comment.dropWhile isSpace
      | solid => solid
    return solid.head? <|> text.head?
  else return text.head?

/-- Reads an item, or two with a hyphen between them, which make a range. A hyphen before a closing
bracket or another hyphen makes none. -/
def readRange : Read CharSet := do
  let first ← readItem
  skipBlanks
  match ← rest with
  | [] => failure
  | '-' :: after =>
    let next ← afterHyphen? after
    if next = some ']' ∨ next = some '-' then checkLiteral (← first.toSet?)
    else
      goOnWith after
      let last ← readItem
      let low ← first.literal?
      let high ← last.literal?
      guard (low ≤ high)
      checkLiteral (.range low.toNat high.toNat)
  | _ => checkLiteral (← first.toSet?)

/-- Reads a named ASCII class such as `[:alpha:]`, the text after its bracket being given. Without a
known name there is none, and the bracket opens a class of its own. -/
def readNamedClass? (text : List Char) : Option (CharSet × Bool × List Char) :=
  match text with
  | ':' :: rest =>
    let (negated, rest) := match rest with
      | '^' :: rest => (true, rest)
      | rest => (false, rest)
    match splitAt? [':'] rest with
    | some (name, ']' :: after) => (Unicode.asciiClass? (String.ofList name)).map (·, negated, after)
    | _ => none
  | _ => none

/-- How the sets before and after an operator are put together. -/
inductive Operator where
  | intersection
  | difference
  | symmetricDifference

/-- The items read since the last operator, and the operator with the set before it. -/
structure Items where
  set : CharSet := .empty
  count : Nat := 0
  depth : Nat := 0
  before? : Option (CharSet × Nat × Operator) := none

def Items.add (items : Items) (set : CharSet) (depth : Nat) : Items :=
  { items with set := items.set.union set, count := items.count + 1, depth := max items.depth depth }

/-- The set of the items, put together with the one before them, and how deeply it is nested. -/
def Items.close (items : Items) : Read (CharSet × Nat) := do
  let depth := if items.count ≤ 1 then items.depth else items.depth + 1
  match items.before? with
  | none => return (items.set, depth)
  | some (before, depth', operator) =>
    let left ← foldCase before
    let right ← foldCase items.set
    let set := match operator with
      | .intersection => left.intersection right
      | .difference => left.difference right
      | .symmetricDifference => left.symmetricDifference right
    return (set, max depth depth' + 1)

/-- The operator at the front of a text, and the text after it. -/
def operator? : List Char → Option (Operator × List Char)
  | '&' :: '&' :: rest => some (.intersection, rest)
  | '-' :: '-' :: rest => some (.difference, rest)
  | '~' :: '~' :: rest => some (.symmetricDifference, rest)
  | _ => none

/-- Reads hyphens at the start of a class, each of which stands for itself. -/
def readHyphens : (fuel : Nat) → Items → Read Items
  | 0, _ => failure
  | fuel + 1, items => do
    match ← rest with
    | '-' :: rest =>
      goOnWith rest
      readHyphens fuel (items.add (.ofChars ['-']) 0)
    | _ => return items

mutual

/-- Reads a class, the text after its bracket being given. -/
def readClass : (fuel : Nat) → Read (CharSet × Nat)
  | 0 => failure
  | fuel + 1 => do
    skipBlanks
    let negated := (← rest).head? == some '^'
    if negated then goOnWith ((← rest).drop 1)
    let items ← readHyphens (fuel + 1) {}
    let items ← match ← rest with
      | ']' :: after =>
        if items.count = 0 then do
          goOnWith after
          pure (items.add (.ofChars [']']) 0)
        else pure items
      | _ => pure items
    let (set, depth) ← readItems fuel items
    return (← negateIf negated (← foldCase set), depth + 1)

/-- Reads the items of a class up to its closing bracket. -/
def readItems : (fuel : Nat) → Items → Read (CharSet × Nat)
  | 0, _ => failure
  | fuel + 1, items => do
    skipBlanks
    let text ← rest
    match text with
    | [] => failure
    | ']' :: rest =>
      setRest rest
      items.close
    | '[' :: rest =>
      match readNamedClass? rest with
      | some (set, negated, after) =>
        setRest after
        readItems fuel (items.add (← negateIf negated (← foldCase set)) 0)
      | none =>
        setRest rest
        let (set, depth) ← readClass fuel
        readItems fuel (items.add set depth)
    | _ =>
      match operator? text with
      | some (operator, after) =>
        setRest after
        let (set, depth) ← items.close
        readItems fuel { before? := some (set, depth, operator) }
      | none => readItems fuel (items.add (← readRange) 0)

end

def readDecimals : (fuel : Nat) → Read (List Char)
  | 0 => failure
  | fuel + 1 => do
    match ← rest with
    | c :: rest =>
      if c.isDigit then
        goOn rest
        return c :: (← readDecimals fuel)
      else return []
    | [] => return []

/-- Reads a number of 32 bits, if there is one. Blanks around it never count. -/
def readNumber (text : List Char) : Read (Option Nat) := do
  setRest (text.dropWhile isSpace)
  let digits ← readDecimals (text.length + 1)
  setRest ((← rest).dropWhile isSpace)
  if digits.isEmpty then return none
  else
    let value := digits.foldl (fun value c => value * 10 + (c.toNat - '0'.toNat)) 0
    guard (value < UInt32.size)
    return some value

/-- Reads the bounds of a counted repetition, the text after its brace being given. -/
def readBounds : Read (Nat × Option Nat) := do
  skipBlanks
  let least? ← readNumber (← rest)
  match ← rest with
  | ',' :: rest =>
    goOnWith rest
    match ← Read.rest with
    | '\x7d' :: rest =>
      setRest rest
      return (← least?, none)
    | text =>
      let least ← least?
      let most ← (← readNumber text)
      match ← Read.rest with
      | '\x7d' :: rest =>
        setRest rest
        guard (least ≤ most)
        return (least, some most)
      | _ => failure
  | '\x7d' :: rest =>
    setRest rest
    let least ← least?
    return (least, some least)
  | _ => failure

/-- Passes over the question mark after a repetition. -/
def skipLazy : Read Unit := do
  match ← rest with
  | '?' :: rest => setRest rest
  | _ => return

/-- Repeats the last part. Flags cannot be repeated. -/
def repeatLast (least : Nat) (most? : Option Nat) : List Shape → Read (List Shape)
  | [] | .flags :: _ => failure
  | part :: parts => return .repeated least most? part :: parts

/-- Reads the name of a group up to its closing angle, which no earlier group may have. -/
def readGroupName (text : List Char) : Read Unit := do
  let name := text.takeWhile (· != '>')
  match name, text.dropWhile (· != '>') with
  | c :: more, _ :: rest =>
    guard (c == '_' || Unicode.nameLetters.contains c)
    guard (more.all fun c => "_.[]".toList.contains c || Unicode.nameLetters.contains c ||
      Unicode.nameNumerals.contains c)
    guard !((← get).names.contains name)
    modify fun reader => { reader with names := name :: reader.names, rest }
  | _, _ => failure

/-- The flags with one of them set or cleared. -/
def Flags.set? (flags : Flags) (flag : Char) (value : Bool) : Option Flags :=
  match flag with
  | 'i' => some { flags with ignoreCase := value }
  | 'm' => some { flags with multiLine := value }
  | 's' => some { flags with dotAll := value }
  | 'U' => some flags
  | 'u' => some { flags with unicode := value }
  | 'x' => some { flags with verbose := value }
  | 'R' => some { flags with anyLineEnd := value }
  | _ => none

/-- Reads flags up to a colon or a closing parenthesis. None of them may stand there twice, and a
minus, which clears those after it, must be followed by one. The answer tells whether a group follows
the flags; a parenthesis without flags is no group. -/
def readFlags (flags : Flags) (seen : List Char) : List Char → Read (Flags × Bool)
  | ':' :: rest => do
    guard (seen.head? != some '-')
    setRest rest
    return (flags, true)
  | ')' :: rest => do
    guard (!seen.isEmpty && seen.head? != some '-')
    setRest rest
    return (flags, false)
  | c :: rest => do
    guard !(seen.contains c)
    if c = '-' then readFlags flags (c :: seen) rest
    else readFlags (← flags.set? c !(seen.contains '-')) (c :: seen) rest
  | [] => failure

/-- What follows an opening parenthesis: a group, or only flags that are in force from there on. -/
inductive Opening where
  | group (remembered : Bool)
  | flags

/-- Reads what follows an opening parenthesis. A group with flags is not remembered. -/
def openGroup : Read Opening := do
  skipBlanks
  match ← rest with
  | '?' :: '=' :: _ | '?' :: '!' :: _ | '?' :: '<' :: '=' :: _ | '?' :: '<' :: '!' :: _ => failure
  | '?' :: 'P' :: '<' :: rest | '?' :: '<' :: rest =>
    readGroupName rest
    return .group true
  | '?' :: rest =>
    let (flags, isGroup) ← readFlags (← flags) [] rest
    setFlags flags
    return if isGroup then .group false else .flags
  | _ => return .group true

def readPart : Read Shape := do
  let flags ← flags
  match ← rest with
  | '\\' :: rest =>
    setRest rest
    match ← readEscape with
    | .literal c => return .chars (← foldCase (.ofChars [c])) 0
    | .set set => return .chars set 0
    | .look condition => return .look condition
  | '.' :: rest =>
    guard flags.unicode
    setRest rest
    let ends := if flags.dotAll then [] else if flags.anyLineEnd then ['\r', '\n'] else ['\n']
    return .chars (CharSet.ofChars ends).complement 0
  | '^' :: rest =>
    setRest rest
    return .look (if !flags.multiLine then .textStart
      else if flags.anyLineEnd then .anyLineStart else .lineStart)
  | '$' :: rest =>
    setRest rest
    return .look (if !flags.multiLine then .textEnd
      else if flags.anyLineEnd then .anyLineEnd else .lineEnd)
  | c :: rest =>
    setRest rest
    return .chars (← foldCase (.ofChars [c])) 0
  | [] => failure

/-- Reads branches up to a closing parenthesis or the end, the parts of the present branch and the
branches before it being given in reverse. -/
def readBranches : (fuel : Nat) → (branches parts : List Shape) → Read Shape
  | 0, _, _ => failure
  | fuel + 1, branches, parts => do
    skipBlanks
    match ← rest with
    | [] | ')' :: _ => return .ofBranches (Shape.ofParts parts.reverse :: branches).reverse
    | '|' :: rest =>
      setRest rest
      readBranches fuel (Shape.ofParts parts.reverse :: branches) []
    | '(' :: rest =>
      let outer ← flags
      setRest rest
      match ← openGroup with
      | .group remembered =>
        let body ← readBranches fuel [] []
        match ← Read.rest with
        | ')' :: rest =>
          setRest rest
          setFlags outer
          readBranches fuel branches (.group remembered body :: parts)
        | _ => failure
      | .flags => readBranches fuel branches (.flags :: parts)
    | '[' :: rest =>
      setRest rest
      let (set, depth) ← readClass fuel
      readBranches fuel branches (.chars set depth :: parts)
    | '?' :: rest =>
      setRest rest
      skipLazy
      readBranches fuel branches (← repeatLast 0 (some 1) parts)
    | '*' :: rest =>
      setRest rest
      skipLazy
      readBranches fuel branches (← repeatLast 0 none parts)
    | '+' :: rest =>
      setRest rest
      skipLazy
      readBranches fuel branches (← repeatLast 1 none parts)
    | '\x7b' :: rest =>
      setRest rest
      let (least, most?) ← readBounds
      skipBlanks
      skipLazy
      readBranches fuel branches (← repeatLast least most? parts)
    | _ => readBranches fuel branches ((← readPart) :: parts)

def maxDepth : Nat := 250

/-- The shape of the regular expression that a text writes, if it writes one. -/
def Shape.ofText? (text : List Char) : Option Shape := do
  let (shape, reader) ← (readBranches (text.length + 1) [] []).run { rest := text }
  guard reader.rest.isEmpty
  guard (shape.depth ≤ maxDepth)
  return shape

end AccessControl.Regex
