import AccessControl.Unicode.Age
import AccessControl.Unicode.Property
/-!
Asking for a set of characters by the name of a property, or by the names of a property and of one of its
values. Case, blanks, hyphens and underscores in a name do not count, nor does `is` before it. Three of the
properties tell where a text can be cut: `graphemeBreak?`, `wordBreak?` and `sentenceBreak?` give the class of
a name among those by which it is cut into what is seen as one character, into words and into sentences.
-/
namespace AccessControl.Unicode

open Formula

def carriageReturn : Formula := points ["D"]

def lineFeed : Formula := points ["A"]

def joiner : Formula := points ["200D"]

/-- Characters that join the one before when characters are counted. -/
def graphemeJoining : Formula := graphemeExtend ∪ emojiModifiers

/-- Characters that belong to the one after when characters are counted. -/
def graphemePrepended : Formula := prependedMarks ∪ points
  ["D4E 111C2-111C3 113D1 1193F 11941 11A3A 11A84-11A89 11D46 11F02"]

/-- Characters that stand apart when characters are counted. -/
def graphemeControl : Formula :=
  (categories ["zl", "zp", "cc", "cf"] ∪ (categories ["cn"] ∩ defaultIgnorable)) \
    (prependedMarks ∪ graphemeJoining ∪ carriageReturn ∪ lineFeed ∪ joiner)

/-- Marks with a width of their own that join the one before when characters are counted. -/
def graphemeSpacing : Formula := 
  (categories ["mc"] \ (graphemeJoining ∪ points
    ["102B-102C 1038 1062-1064 1067-106D 1083 1087-108C 108F 109A-109C 1A61 1A63-1A64 AA7B AA7D",
     "11720-11721"])) ∪ points ["E33 EB3"]

/-- Hangul syllables without a final consonant. -/
def openSyllables : Formula := .every 28 0xAC00 399

def graphemeBreakTable : List (List String × Formula) := [
  (["cn", "control"], graphemeControl),
  (["cr"], carriageReturn),
  (["ex", "extend"], graphemeJoining),
  (["l"], points ["1100-115F A960-A97C"]),
  (["lf"], lineFeed),
  (["lv"], openSyllables),
  (["lvt"], points ["AC00-D7A3"] \ openSyllables),
  (["pp", "prepend"], graphemePrepended),
  (["regionalindicator", "ri"], regionalIndicators),
  (["sm", "spacingmark"], graphemeSpacing),
  (["t"], points ["11A8-11FF D7CB-D7FB"]),
  (["v"], points ["1160-11A7 D7B0-D7C6 16D63 16D67-16D6A"]),
  (["zwj"], joiner)]

def segmentNumeric : Formula := categories ["nd"] ∪ points
  ["600-605 66B 6DD 890-891 8E2 19DA 110BD 110CD"]

/-- Formatting characters that no other class takes. -/
def segmentFormat : Formula :=
  categories ["cf"] \ (prependedMarks ∪ points ["200B-200D E0020-E007F"])

def hebrewLetters : Formula := script "hebrew" ∩ categories ["lo"]

/-- Katakana, and what lengthens or repeats it. -/
def katakanaLetters : Formula := script "katakana" ∪ points ["3031-3035 309B-309C 30A0 30FC FF70"]

/-- Characters that join the word before. -/
def wordJoining : Formula := graphemeExtend ∪ categories ["mc"] ∪ emojiModifiers

/-- Letters of scripts that put no blanks between words. -/
def unspacedLetters : Formula := points
  ["E01-E30 E32-E33 E40-E46 E81-E82 E84 E86-E8A E8C-EA3 EA5 EA7-EB0 EB2-EB3 EBD EC0-EC4 EC6",
   "EDC-EDF 1000-102A 103F 1050-1055 105A-105D 1061 1065-1066 106E-1070 1075-1081 108E 1780-17B3",
   "17D7 17DC 1950-196D 1970-1974 1980-19AB 19B0-19C9 1A20-1A54 1AA7 A9E0-A9E4 A9E6-A9EF",
   "A9FA-A9FE AA60-AA76 AA7A AA7E-AAAF AAB1 AAB5-AAB6 AAB9-AABD AAC0 AAC2 AADB-AADD 11700-1171A",
   "11740-11746"]

/-- Letters of which words are made, and signs that stand for letters. -/
def wordLetters : Formula :=
  (alphabetic \ (ideographs ∪ katakanaLetters ∪ script "hiragana" ∪ wordJoining ∪ hebrewLetters ∪
    unspacedLetters)) ∪ points
    ["2C2-2C5 2D2-2D7 2DE-2DF 2E5-2EB 2ED 2EF-2FF 55A-55C 55E 58A 5F3 70F A708-A716 A720-A721",
     "A789-A78A AB5B"]

def wordBreakTable : List (List String × Formula) := [
  (["aletter", "le"], wordLetters),
  (["cr"], carriageReturn),
  (["doublequote", "dq"], points ["22"]),
  (["ex", "extendnumlet"], categories ["pc"] ∪ points ["202F"]),
  (["extend"], wordJoining),
  (["fo", "format"], segmentFormat),
  (["hebrewletter", "hl"], hebrewLetters),
  (["ka", "katakana"], katakanaLetters),
  (["lf"], lineFeed),
  (["mb", "midnumlet"], points ["2E 2018-2019 2024 FE52 FF07 FF0E"]),
  (["midletter", "ml"], points ["3A B7 387 55F 5F4 2027 FE13 FE55 FF1A"]),
  (["midnum", "mn"], points ["2C 3B 37E 589 60C-60D 66C 7F8 2044 FE50 FE54 FF0C FF1B"]),
  (["newline", "nl"], points ["B-C 85 2028-2029"]),
  (["nu", "numeric"], segmentNumeric),
  (["regionalindicator", "ri"], regionalIndicators),
  (["singlequote", "sq"], points ["27"]),
  (["wsegspace"], categories ["zs"] \ points ["A0 2007 202F"]),
  (["zwj"], joiner)]

/-- Full stops, which may end a sentence. -/
def fullStops : Formula := points ["2E 2024 FE52 FF0E"]

/-- Characters that join the one before in a sentence. -/
def sentenceJoining : Formula := graphemeExtend ∪ categories ["mc"] ∪ joiner

/-- Lower-case characters in a sentence. -/
def sentenceLower : Formula := lowercase \ (sentenceJoining ∪ points ["10D0-10FA 10FD-10FF"])

/-- Upper-case characters in a sentence. -/
def sentenceUpper : Formula :=
  (uppercase ∪ categories ["lt"]) \ points ["1C90-1CBA 1CBD-1CBF"]

def sentenceBreakTable : List (List String × Formula) := [
  (["at", "aterm"], fullStops),
  (["cl", "close"],
    ((categories ["ps", "pe", "pi", "pf"] ∪ quotationMarks) \ points ["FF02 FF07"]) ∪
      points ["275B-2760 2E00-2E01 2E06-2E08 2E0B 1F676-1F678"]),
  (["cr"], carriageReturn),
  (["ex", "extend"], sentenceJoining),
  (["fo", "format"], segmentFormat ∪ points ["70F 200B"]),
  (["le", "oletter"],
    (alphabetic \ (sentenceLower ∪ sentenceUpper ∪ sentenceJoining)) ∪ points ["5F3"]),
  (["lf"], lineFeed),
  (["lo", "lower"], sentenceLower),
  (["nu", "numeric"], segmentNumeric ∪ points ["66C"]),
  (["sc", "scontinue"],
    points
      ["2C-2D 3A-3B 37E 55D 60C-60D 7F8 1802 1808 2013-2014 3001 FE10-FE11 FE13-FE14 FE31-FE32",
       "FE50-FE51 FE54-FE55 FE58 FE63 FF0C-FF0D FF1A-FF1B FF64"]),
  (["se", "sep"], points ["85 2028-2029"]),
  (["sp"], whiteSpace \ points ["A D 85 2028-2029"]),
  (["st", "sterm"], sentenceTerminals \ fullStops),
  (["up", "upper"], sentenceUpper)]

def graphemeBreak? (name : String) : Option CharSet := Formula.lookup? graphemeBreakTable name

def wordBreak? (name : String) : Option CharSet := Formula.lookup? wordBreakTable name

def sentenceBreak? (name : String) : Option CharSet := Formula.lookup? sentenceBreakTable name

/-- A name without what does not count in it. The short name `isc` is no `c` with `is` before it. -/
def looseName (name : List Char) : String :=
  let plain := fun (text : List Char) =>
    (text.filter fun c => c != ' ' && c != '_' && c != '-' && c.toNat ≤ 0x7F).map Char.toLower
  match name with
  | i :: s :: rest =>
    if i.toLower = 'i' ∧ s.toLower = 's' then
      if plain rest = ['c'] then "isc" else String.ofList (plain rest)
    else String.ofList (plain name)
  | name => String.ofList (plain name)

/-- The characters that a name alone stands for: a property, a category or a script. -/
def named? (name : List Char) : Option CharSet :=
  let name := looseName name
  (if name ∈ ["cf", "sc", "lc"] then none else property? name) <|> category? name <|> script? name

/-- The characters for which a property has a value. -/
def valued? (property value : List Char) : Option CharSet :=
  let value := looseName value
  match looseName property with
  | "gc" | "generalcategory" => category? value
  | "sc" | "script" => script? value
  | "scx" | "scriptextensions" => scriptExtension? value
  | "age" => age? value
  | "gcb" | "graphemeclusterbreak" => graphemeBreak? value
  | "wb" | "wordbreak" => wordBreak? value
  | "sb" | "sentencebreak" => sentenceBreak? value
  | _ => none

end AccessControl.Unicode
