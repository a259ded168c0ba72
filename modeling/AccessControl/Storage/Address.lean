import AccessControl.Text.Url
/-!
Addresses of databases: `sqlite:` or `sqlite://`, then the name of a file or `:memory:`, then parameters
after a question mark. A file may again be named by an address of its own, which starts with `file:`
and has options that narrow down what the parameters allow.
-/
namespace AccessControl
open Text

/-- What a database is opened for: to be read, to be changed, or to be made as well if it is missing. -/
inductive Access where
  | read
  | change
  | make
deriving DecidableEq, Repr

namespace Access

/-- How much an access allows. Making is more than changing, and changing more than reading. -/
def rank : Access → Nat
  | read => 1
  | change => 2
  | make => 6

end Access

/-- What an address says of a database: the name of its file, what it is opened for, whether it is one
in memory, whether its file is taken to be fixed, and by which layer its file is reached. -/
structure Address where
  name : String
  access : Access := .change
  inMemory : Bool := false
  fixed : Bool := false
  layer? : Option String := none
deriving DecidableEq, Repr

namespace Address

/-- The scheme of addresses. -/
def scheme : String := "sqlite"

/-- The name of databases in memory. -/
def memoryName : String := ":memory:"

/-- The layer that keeps files in memory. -/
def memoryLayer : String := "memdb"

/-- The layers by which files are reached. -/
def layers : List String := ["unix", "unix-none", "unix-dotfile", "unix-excl", memoryLayer]

/-- What a text has after a word that it starts with, taken away in some rounds. -/
def dropWord (word : List Char) : (rounds : Nat) → (text : List Char) → List Char
  | 0, text => text
  | rounds + 1, text =>
    if word.isPrefixOf text then dropWord word rounds (text.drop word.length) else text

/-- What stands after the scheme, which may be written several times, first with two slashes each time
and then without. -/
def afterScheme (text : List Char) : List Char :=
  let colon := (scheme ++ ":").toList
  dropWord colon text.length (dropWord (colon ++ ['/', '/']) text.length text)

/-- The text up to its first zero. -/
def upToZero (text : String) : String := String.ofList (text.toList.takeWhile (· != '\x00'))

/-- The address with a parameter taken into account. Reading excludes all else, and else making is not
taken back. -/
def withParameter (address : Address) : String × String → Option Address
  | ("mode", "ro") => some { address with access := .read }
  | ("mode", "rw") => some address
  | ("mode", "rwc") => some (if address.access = .read then address else { address with access := .make })
  | ("mode", "memory") => some { address with inMemory := true }
  | ("cache", value) => if value = "private" ∨ value = "shared" then some address else none
  | ("immutable", value) =>
    if value = "true" ∨ value = "1" then some { address with fixed := true }
    else if value = "false" ∨ value = "0" then some { address with fixed := false }
    else none
  | ("vfs", value) => some { address with layer? := some (upToZero value) }
  | _ => none

/-- The address with its parameters, before its name is read. -/
def written? (text : String) : Option Address := do
  guard (Url.scheme? text = some scheme)
  let rest := afterScheme text.toList
  let name := rest.takeWhile (· != '?')
  let address : Address :=
    { name := ← Percent.decode? name, inMemory := String.ofList name = memoryName }
  (← Percent.formPairs? (rest.drop (name.length + 1))).foldlM withParameter address

/-- The text that bytes stand for up to the first zero. Bytes that are no text stand for a character
each. -/
def textUpToZero (bytes : List UInt8) : String :=
  let bytes := bytes.takeWhile (· != 0)
  (Percent.textOf? bytes).getD (String.ofList (bytes.map fun byte => Char.ofNat byte.toNat))

/-- The address with an access. It may not allow more than the address did, unless that is one in
memory. -/
def narrow (address : Address) (access : Access) : Option Address := do
  guard (address.inMemory || access.rank ≤ address.access.rank)
  return { address with access, inMemory := false }

def withOption (address : Address) : String × String → Option Address
  | ("mode", "ro") => address.narrow .read
  | ("mode", "rw") => address.narrow .change
  | ("mode", "rwc") => address.narrow .make
  | ("mode", "memory") => some { address with access := .change, inMemory := true }
  | ("mode", _) => none
  | ("cache", value) => if value = "private" ∨ value = "shared" then some address else none
  | ("vfs", value) => some { address with layer? := some value }
  | _ => some address

/-- Whether the value of an option means yes: a number other than zero in its last eight bits, or a
word. -/
def isYes (value : String) : Bool :=
  let digits := value.toList.takeWhile Char.isDigit
  if digits.isEmpty then ["yes", "true", "on"].contains value.toLower
  else numberOf 10 digits < 1 <<< 31 && numberOf 10 digits % 256 != 0

/-- What stands after the host of a file's own address. The host must be this one. -/
def afterHost? : (text : List Char) → Option (List Char)
  | '/' :: '/' :: rest => do
    let host := rest.takeWhile (· != '/')
    guard (host.isEmpty ∨ host = "localhost".toList)
    return rest.drop host.length
  | text => some text

/-- The address when the name of its file is an address of its own, without `file:` in front. Of the
options without a name none counts, and of those that fix the file the first. -/
def ofFile? (address : Address) (text : List Char) : Option Address := do
  let text := (← afterHost? text).takeWhile (· != '#')
  let path := text.takeWhile (· != '?')
  let decode := fun part => textUpToZero (Percent.bytes part)
  let options := (Percent.pairs (text.drop (path.length + 1))).map fun (name, value) =>
    (decode name, decode value)
  let options := options.filter fun option => option.1 != ""
  let fixed := (options.find? fun option => option.1 == "immutable").any fun option => isYes option.2
  options.foldlM withOption { address with name := decode path, fixed }

/-- The address with the name of its file read. A file that is fixed or reached by a layer of its own is
named as it stands, up to the first zero; no other name may have a zero. -/
def readName? (address : Address) : Option Address :=
  if address.fixed ∨ address.layer?.isSome then some { address with name := upToZero address.name }
  else if '\x00' ∈ address.name.toList then none
  else
    match address.name.toList with
    | 'f' :: 'i' :: 'l' :: 'e' :: ':' :: rest => ofFile? address rest
    | _ => some address

/-- The address that a text writes, if it is one. -/
def ofText? (text : String) : Option Address := do
  let address ← readName? (← written? text)
  guard (address.layer?.all layers.contains)
  return address

end Address
end AccessControl
