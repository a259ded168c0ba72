import AccessControl.Unicode.Property
/-!
The classes of characters that regular expressions name by a letter: digits, blanks and characters of
words. Each comes in its Unicode form and in its ASCII form. The characters of which the names of groups
are made are here too.

What may stand in such a name, and what is seen in a quoted text, goes by a later edition of the standard than
that of the other tables. Classes of characters do not.
-/
namespace AccessControl.Unicode

/-- Alphabetic characters that the later edition added. -/
def laterAlphabetic : Formula := .points
  ["88F C5C CDC A7CE-A7CF A7D2 A7D4 A7F1 10940-10959 10EC5-10EC7 10EFA-10EFB 11B60-11B67",
   "11DB0-11DDB 16EA0-16EB8 16EBB-16ED3 16FF2-16FF6 187F8-187FF 18D09-18D1E 18D80-18DF2",
   "1E6C0-1E6DE 1E6E0-1E6F5 1E6FE-1E6FF 2B73A-2B73F 2CEA2-2CEAD 323B0-33479"]

/-- Characters that write numbers and that the later edition added. -/
def laterNumeric : Formula := .points ["11DE0-11DE9 16FF4-16FF6"]

/-- Characters that the later edition added and that are seen for themselves. -/
def laterVisible : Formula := .points
  ["88F C5C CDC 20C1 2B96 A7CE-A7CF A7D2 A7D4 A7F1 FBC3-FBD2 FD90-FD91 FDC8-FDCE 10940-10959",
   "10EC5-10EC7 10ED0-10ED8 11B61 11B65 11B67 11DB0-11DDB 11DE0-11DE9 16EA0-16EB8 16EBB-16ED3",
   "16FF2-16FF6 187F8-187FF 18D09-18D1E 18D80-18DF2 1CCFA-1CCFC 1CEBA-1CED0 1CEE0-1CEF0",
   "1E6C0-1E6DE 1E6E0-1E6E2 1E6E4-1E6E5 1E6E7-1E6ED 1E6F0-1E6F4 1E6FE-1E6FF 1F6D8 1F777-1F77A",
   "1F8D0-1F8D8 1FA54-1FA57 1FA8A 1FA8E 1FAC8 1FACD 1FAEA 1FAEF 1FBFA 2B73A-2B73F 2CEA2-2CEAD",
   "323B0-33479"]

def digits : CharSet := assignedCategory "nd"

def blanks : CharSet := whiteSpace.set

/-- Characters of words: alphabetic ones, marks, digits, connectors and joiners. -/
def wordCharacters : CharSet :=
  (alphabetic ∪ .categories ["mn", "mc", "me", "nd", "pc"] ∪ joinControls).set

def nameLetters : CharSet := (alphabetic ∪ laterAlphabetic).set

def nameNumerals : CharSet := (.categories ["nd", "nl", "no"] ∪ laterNumeric : Formula).set

/-- The ASCII digits. -/
def asciiDigits : CharSet := .ofText ["30-39"]

/-- The ASCII blanks. -/
def asciiBlanks : CharSet := .ofText ["9-D 20"]

/-- The ASCII characters of words. -/
def asciiWordCharacters : CharSet := .ofText ["30-39 41-5A 5F 61-7A"]

/-- The ASCII classes that have names. -/
def asciiClass? (name : String) : Option CharSet :=
  match name with
  | "alnum" => some (.ofText ["30-39 41-5A 61-7A"])
  | "alpha" => some (.ofText ["41-5A 61-7A"])
  | "ascii" => some (.ofText ["0-7F"])
  | "blank" => some (.ofText ["9 20"])
  | "cntrl" => some (.ofText ["0-1F 7F"])
  | "digit" => some asciiDigits
  | "graph" => some (.ofText ["21-7E"])
  | "lower" => some (.ofText ["61-7A"])
  | "print" => some (.ofText ["20-7E"])
  | "punct" => some (.ofText ["21-2F 3A-40 5B-60 7B-7E"])
  | "space" => some asciiBlanks
  | "upper" => some (.ofText ["41-5A"])
  | "word" => some asciiWordCharacters
  | "xdigit" => some (.ofText ["30-39 41-46 61-66"])
  | _ => none

/-- A set together with its ASCII letters in the other case. -/
def closeUnderAsciiCase (set : CharSet) : CharSet :=
  let lower := set.intersection (.ofText ["61-7A"])
  let upper := set.intersection (.ofText ["41-5A"])
  set.union (.ofRanges
    (lower.ranges.map (fun (first, last) => (first - 32, last - 32)) ++
      upper.ranges.map (fun (first, last) => (first + 32, last + 32))))

end AccessControl.Unicode
