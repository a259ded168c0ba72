import AccessControl.Text.Layout
/-!
Texts in which a percent sign and two hexadecimal digits stand for a byte, and lists of named values that
are written with them; and which texts are URLs, for schemes that have no rules of their own. Blanks and
control characters around a URL do not count, nor do tabs and line ends within it. After the scheme, two
slashes start an authority: a user, a host and a port. All else is free.
-/
namespace AccessControl.Text
namespace Percent

/-- The bytes that a text stands for: those of its characters, and those written in hexadecimal. -/
def bytes : (text : List Char) → List UInt8
  | '%' :: high :: low :: rest =>
    match digit? high, digit? low with
    | some high, some low => UInt8.ofNat (16 * high + low) :: bytes rest
    | _, _ => 37 :: bytes (high :: low :: rest)
  | c :: rest => (String.singleton c).toUTF8.toList ++ bytes rest
  | [] => []

/-- The text that bytes are the encoding of, if they are one. -/
def textOf? (bytes : List UInt8) : Option String := String.fromUTF8? ⟨bytes.toArray⟩

/-- The text that a text stands for, if it stands for one. -/
def decode? (text : List Char) : Option String := textOf? (bytes text)

/-- A name and its value, which stand on both sides of the first `=`. Without one the value is empty. -/
def cutValue (pair : List Char) : List Char × List Char :=
  (cut? '=' pair).getD (pair, [])

/-- The pairs of names and values that a text writes, with `&` between them. Empty pairs do not count. -/
def pairs (text : List Char) : List (List Char × List Char) :=
  ((text.splitOn '&').filter fun pair => !pair.isEmpty).map cutValue

def formPairs? (text : List Char) : Option (List (String × String)) :=
  let decodeForm? := fun (part : List Char) => decode? (part.map fun c => if c = '+' then ' ' else c)
  (pairs text).mapM fun (name, value) => do return (← decodeForm? name, ← decodeForm? value)

end Percent

namespace Url

/-- A text without what does not count in a URL. -/
def strip (text : List Char) : List Char :=
  let isEdge := fun c => c ≤ ' '
  let trimmed := ((text.dropWhile isEdge).reverse.dropWhile isEdge).reverse
  trimmed.filter fun c => c != '\t' && c != '\n' && c != '\r'

/-- Whether a word is a byte in decimal, without needless zeros. -/
def isByte (word : List Char) : Bool :=
  !word.isEmpty && word.all Char.isDigit && (word.length == 1 || word.head? != some '0') &&
    numberOf 10 word ≤ 255

/-- Whether a word is an address of four bytes. -/
def isIpv4 (word : List Char) : Bool :=
  let bytes := word.splitOn '.'
  bytes.length == 4 && bytes.all isByte

/-- Whether a word is a group of an address in hexadecimal. -/
def isGroup (word : List Char) : Bool :=
  !word.isEmpty && word.length ≤ 4 && word.all isHexDigit

/-- The number of groups that a part of an address writes with colons between them. At the end of an
address four bytes stand for two groups. -/
def groupCount? (isLast : Bool) (text : List Char) : Option Nat :=
  if text.isEmpty then some 0
  else
    let groups := text.splitOn ':'
    let last := groups.getLast?.getD []
    if !groups.dropLast.all isGroup then none
    else if isGroup last then some groups.length
    else if isLast && isIpv4 last then some (groups.length + 1)
    else none

/-- The text before and after the first two colons in a row. -/
def cutColons? : List Char → Option (List Char × List Char)
  | ':' :: ':' :: rest => some ([], rest)
  | c :: rest => (cutColons? rest).map fun (before, after) => (c :: before, after)
  | [] => none

/-- Whether a text is an address of eight groups, some of which two colons may stand for. -/
def isIpv6 (text : List Char) : Bool :=
  match cutColons? text with
  | none => groupCount? true text == some 8
  | some (before, after) =>
    match groupCount? false before, groupCount? true after with
    | some first, some second => first + second ≤ 7
    | _, _ => false

/-- A character that may not stand in a host. -/
def isForbidden (c : Char) : Bool := "\x00\t\n\r #/:<>?@[\\]^|".toList.contains c

/-- Whether a text is a host: a name, or an address in brackets. -/
def isHost : (text : List Char) → Bool
  | '[' :: rest => rest.getLast? == some ']' && isIpv6 rest.dropLast
  | text => !text.any isForbidden

/-- A host and what stands after it, from the first colon that is in no brackets on. -/
def cutHost : (inBrackets : Bool) → (text : List Char) → List Char × List Char
  | _, [] => ([], [])
  | inBrackets, c :: rest =>
    if c = ':' ∧ !inBrackets then ([], c :: rest)
    else
      let (host, after) := cutHost (if c = '[' then true else if c = ']' then false else inBrackets) rest
      (c :: host, after)

/-- Whether a text is empty or a colon with the number of a port. A backslash ends the number. -/
def isPort : (text : List Char) → Bool
  | ':' :: rest =>
    let digits := rest.takeWhile Char.isDigit
    let after := rest.drop digits.length
    numberOf 10 digits ≤ 65535 && (after.isEmpty || after.head? == some '\\')
  | text => text.isEmpty

/-- The user of an authority, if it has one, and what stands after it. The last at sign ends it. -/
def cutUser (text : List Char) : Option (List Char) × List Char :=
  match cut? '@' text.reverse with
  | some (after, before) => (some before.reverse, after.reverse)
  | none => (none, text)

/-- Whether a text is an authority, given whether more stands after it. A user and a port need a host;
a user without a name and a password is none. -/
def isAuthority (isFollowed : Bool) (text : List Char) : Bool :=
  let (user, rest) := cutUser text
  let (host, port) := cutHost false rest
  if host.isEmpty && !port.isEmpty then false
  else
    match user with
    | some [] => isHost host && isPort port && !(rest.isEmpty && isFollowed)
    | some user => isHost host && isPort port && (user == [':'] || !host.isEmpty)
    | none => isHost host && isPort port

def isSchemeChar (c : Char) : Bool := c.isAlphanum || c == '+' || c == '-' || c == '.'

/-- The scheme of a URL in lower case. A text that is no URL has none. -/
def scheme? (text : String) : Option String := do
  let (scheme, rest) ← cut? ':' (strip text.toList)
  guard (scheme.head?.any Char.isAlpha && scheme.all isSchemeChar)
  match rest with
  | '/' :: '/' :: rest =>
    let authority := rest.takeWhile fun c => c != '/' && c != '?' && c != '#'
    guard (isAuthority (authority.length < rest.length) authority)
    return (String.ofList scheme).toLower
  | _ => return (String.ofList scheme).toLower

end Url
end AccessControl.Text
