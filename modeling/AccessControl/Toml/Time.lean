import AccessControl.Toml.Number
/-!
Points in time: a date, a time of the day, or both with or without the distance from universal time. A
document writes them as words, or as texts in tables of their own, whose first key says so.
-/
namespace AccessControl.Toml

/-- How a point in time is written: as a word, which keeps to the hours of a day, or as a text, which
may also write the hour 24, a distance of a whole day, and a distance after a date alone. -/
inductive TimeForm where
  | word
  | text
deriving DecidableEq, Repr

/-- The number that `width` digits write, and what stands after them. -/
def fixedDigits (width : Nat) (word : List Char) : Option (Nat × List Char) := do
  let digits := word.take width
  guard (digits.length = width ∧ digits.all Char.isDigit)
  return (Text.numberOf 10 digits, word.drop width)

/-- A character that must stand next, and what stands after it. -/
def expect (c : Char) : List Char → Option (List Char)
  | d :: rest => if c = d then some rest else none
  | [] => none

def daysIn (year month : Nat) : Nat :=
  if month = 2 then
    if year % 4 = 0 ∧ (year % 100 ≠ 0 ∨ year % 400 = 0) then 29 else 28
  else if month = 4 ∨ month = 6 ∨ month = 9 ∨ month = 11 then 30
  else 31

/-- The part of a word that was read, when what was left over is given. -/
def readPart (word rest : List Char) : List Char := word.take (word.length - rest.length)

/-- A date, and what stands after it. -/
def cutDate (word : List Char) : Option (List Char × List Char) := do
  let (year, rest) ← fixedDigits 4 word
  let (month, rest) ← fixedDigits 2 (← expect '-' rest)
  let (day, rest) ← fixedDigits 2 (← expect '-' rest)
  guard (1 ≤ month ∧ month ≤ 12 ∧ 1 ≤ day ∧ day ≤ daysIn year month)
  return (readPart word rest, rest)

/-- The fraction of a second, of which nine digits count and closing zeros do not. -/
def fractionText (digits : List Char) : List Char :=
  let counted := ((digits.take 9).reverse.dropWhile (· == '0')).reverse
  if counted.isEmpty then [] else '.' :: counted

/-- A time of the day, and what stands after it. -/
def cutTime (form : TimeForm) (word : List Char) : Option (List Char × List Char) := do
  let (hour, rest) ← fixedDigits 2 word
  let (minute, rest) ← fixedDigits 2 (← expect ':' rest)
  let (second, rest) ← fixedDigits 2 (← expect ':' rest)
  guard (hour ≤ (if form = .word then 23 else 24) ∧ minute ≤ 59 ∧ second ≤ 60)
  let time := readPart word rest
  match rest with
  | '.' :: rest =>
    let digits := rest.takeWhile Char.isDigit
    guard !digits.isEmpty
    return (time ++ fractionText digits, rest.drop digits.length)
  | rest => return (time, rest)

def twoDigits (number : Nat) : List Char :=
  [Nat.digitChar (number / 10), Nat.digitChar (number % 10)]

/-- The distance from universal time, in hours and less than sixty minutes. No distance has no minus
sign. -/
def offset? (form : TimeForm) : (word : List Char) → Option (List Char)
  | [] => some []
  | ['z'] => some ['Z']
  | ['Z'] => some ['Z']
  | sign :: word => do
    guard (sign = '+' ∨ sign = '-')
    let (hour, rest) ← fixedDigits 2 word
    let (minute, rest) ← fixedDigits 2 (← expect ':' rest)
    guard rest.isEmpty
    match form with
    | .word => guard (hour ≤ 23 ∧ minute ≤ 59)
    | .text => guard (60 * hour + minute ≤ 60 * 24)
    let minutes := 60 * hour + minute
    return (if minutes = 0 then '+' else sign) ::
      (twoDigits (minutes / 60) ++ ':' :: twoDigits (minutes % 60))

/-- A character between a date and a time of the day. -/
def isTimeMark (c : Char) : Bool := c == 'T' || c == 't' || c == ' '

/-- The time of the day and the distance from universal time that stand after a date. -/
def afterDate? (form : TimeForm) : (word : List Char) → Option (List Char)
  | [] => some []
  | mark :: rest =>
    if isTimeMark mark then do
      let (time, rest) ← cutTime form rest
      return 'T' :: (time ++ (← offset? form rest))
    else if form = .text then offset? form (mark :: rest)
    else none

def timeOfDay? (form : TimeForm) (word : List Char) : Option (List Char) := do
  let (time, rest) ← cutTime form word
  guard rest.isEmpty
  return time

/-- The point in time that a word or a text writes. -/
def time? (form : TimeForm) (word : List Char) : Option Value :=
  let time :=
    match cutDate word with
    | some (date, rest) => (afterDate? form rest).map (date ++ ·)
    | none => timeOfDay? form word
  time.map fun time => .time (String.ofList time)

/-- The first key of the tables that stand for points in time. -/
def timeKey : String := "$__toml_private_datetime"

/-- The point in time that a table stands for, if its first key says that it stands for one. -/
def tableTime? : (entries : List (String × Value)) → Option (Option Value)
  | (key, value) :: _ =>
    if key ≠ timeKey then none
    else
      match value with
      | .text value => some (time? .text value.toList)
      | _ => some none
  | [] => none

mutual

/-- The value with points in time for the tables that stand for one. -/
def Value.timed? : Value → Option Value
  | .table entries =>
    match tableTime? entries with
    | some time => time
    | none => (timedEntries? entries).map .table
  | .array items => (timedItems? items).map .array
  | .text value => some (.text value)
  | .integer value => some (.integer value)
  | .number value => some (.number value)
  | .time value => some (.time value)
  | .boolean value => some (.boolean value)

/-- The entries with points in time for the tables that stand for one. -/
def timedEntries? : List (String × Value) → Option (List (String × Value))
  | [] => some []
  | (key, value) :: rest => do return (key, ← value.timed?) :: (← timedEntries? rest)

/-- The items with points in time for the tables that stand for one. -/
def timedItems? : List Value → Option (List Value)
  | [] => some []
  | value :: rest => do return (← value.timed?) :: (← timedItems? rest)

end

end AccessControl.Toml
