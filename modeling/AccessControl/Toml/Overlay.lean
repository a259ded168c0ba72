import AccessControl.Toml.Number
/-!
Laying values over a table. A table is laid over what stands under its key entry by entry, and makes
way for itself where no table stands; every other value takes the place of the earlier one. Case does
not matter in keys: all of them are laid in lower case. The name of a value leads to its place step by step. It
is a key with more steps after it, each of which is a dot and a key or an index in brackets; a name that is not
written like that is one key as a whole.
-/
namespace AccessControl.Toml

/-- A step into a value: to the entry of a key, or to the item at an index, which counts from the end
when it is negative. -/
inductive Accessor where
  | key (name : String)
  | index (index : Int)
deriving DecidableEq, Repr

namespace Accessor

def isKeyChar (c : Char) : Bool := c.isAlphanum || c == ' ' || c == '_' || c == '-'

/-- The index that stands in brackets, with blanks around it. It fits 64 bits. -/
def index? (text : List Char) : Option Int := do
  let isBlank := fun c => c == ' ' || c == '\t'
  let word := ((text.dropWhile isBlank).reverse.dropWhile isBlank).reverse
  let negative := word.head? == some '-'
  let digits := if negative then word.drop 1 else word
  guard (!digits.isEmpty && digits.all Char.isDigit)
  let size : Int := Text.numberOf 10 digits
  let index := if negative then -size else size
  guard (Int64.minValue.toInt ≤ index ∧ index ≤ Int64.maxValue.toInt)
  return index

/-- The first step that a text writes, and what stands after it. -/
def cut? : (text : List Char) → Option (Accessor × List Char)
  | '.' :: rest =>
    let name := rest.takeWhile isKeyChar
    if name.isEmpty then none else some (.key (String.ofList name), rest.dropWhile isKeyChar)
  | '[' :: rest => do
    let (inside, rest) ← Text.cut? ']' rest
    return (.index (← index? inside), rest)
  | _ => none

/-- The steps that a text writes in some rounds, a step in each. -/
def ofText? : (rounds : Nat) → (text : List Char) → Option (List Accessor)
  | _, [] => some []
  | 0, _ => none
  | rounds + 1, text => do
    let (step, rest) ← cut? text
    return step :: (← ofText? rounds rest)

/-- The steps that a name writes: a key, and what stands after it. -/
def ofName? (name : String) : Option (List Accessor) := do
  let text := name.toList
  let first := text.takeWhile isKeyChar
  guard !first.isEmpty
  return .key (String.ofList first) :: (← ofText? text.length (text.dropWhile isKeyChar))

def ofName (name : String) : List Accessor := (ofName? name).getD [.key name]

end Accessor

/-- The entries of a table, in which a key stands once. -/
abbrev Table := List (String × Value)

/-- The Kelvin sign, whose lower case is the letter `k`. -/
def kelvinSign : Char := '\u212A'

/-- A key in lower case. -/
def lowerKey (key : String) : String := key.map fun c => if c = kelvinSign then 'k' else c.toLower

namespace Table

def find? (table : Table) (key : String) : Option Value :=
  (List.find? (fun entry => entry.1 == key) table).map (·.2)

/-- Puts a value over an earlier one of the same key, or at the end. -/
def put (table : Table) (key : String) (value : Value) : Table :=
  if (table.find? key).isSome then
    List.map (fun entry => if entry.1 = key then (key, value) else entry) table
  else table ++ [(key, value)]

end Table

namespace Value

/-- What stands at a place that no value has been laid on. -/
def absent : Value := .array []

/-- The entries of a value, none if it is no table. -/
def entries : Value → Table
  | .table entries => entries
  | _ => []

/-- The items of a value, none if it is no array. -/
def items : Value → List Value
  | .array items => items
  | _ => []

end Value

mutual

/-- What stands at a place after a value has been laid over what stood there. -/
def Value.over (below : Option Value) : Value → Value
  | .table entries => overEntries (below.getD (.table [])) entries
  | .text value => .text value
  | .integer value => .integer value
  | .number value => .number value
  | .time value => .time value
  | .boolean value => .boolean value
  | .array items => .array items

/-- What stands at a place after entries have been laid over what stood there. Where no table stood
and there are no entries, the earlier value stays. -/
def overEntries (below : Value) : List (String × Value) → Value
  | [] => below
  | (key, value) :: rest =>
    let key := lowerKey key
    overEntries (.table (Table.put below.entries key (Value.over (Table.find? below.entries key) value)))
      rest

end

/-- The place among `count` items that an index means. -/
def placeOf (count : Nat) (index : Int) : Nat := (if index < 0 then count + index else index).toNat

/-- The items with one of them changed. Items that are missing before it are put in as absent. -/
def changeItem (items : List Value) (place : Nat) (change : Value → Value) : List Value :=
  (items ++ List.replicate (place + 1 - items.length) Value.absent).modify place change

/-- Lays a value on the place that some steps lead to. A step to a key makes a table of what is none,
and a step to an index makes an array. An item makes way for the value as a whole. -/
def Value.lay (value : Value) : (steps : List Accessor) → (below : Value) → Value
  | [], _ => value
  | [.key name], below => overEntries below [(name, value)]
  | .key name :: steps, below =>
    let key := lowerKey name
    .table (Table.put below.entries key (value.lay steps ((Table.find? below.entries key).getD Value.absent)))
  | .index index :: steps, below =>
    .array (changeItem below.items (placeOf below.items.length index) (value.lay steps))

/-- Lays named values over a table, each on the place that its name leads to. -/
def Table.layAll (table : Table) (values : List (String × Value)) : Table :=
  values.foldl (fun table (name, value) => (value.lay (Accessor.ofName name) (.table table)).entries) table

end AccessControl.Toml
