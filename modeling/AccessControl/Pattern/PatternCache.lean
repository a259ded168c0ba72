/-!
Patterns and a cache for them. What a pattern is and which values match it is up to an engine for regular
expressions. A pattern is compiled when it is first used and then kept; when a new one comes and the cache is
full, all others are forgotten first. What is no pattern is not kept.
-/
namespace AccessControl

/-- A compiled regular expression: whether some part of a value, anywhere, is what it describes. -/
structure Regex where
  matchesText : String → Bool
deriving Inhabited

namespace Regex

/-- An engine for regular expressions: what it compiles a text to, if the text is one. -/
class Engine where
  compile? : String → Option Regex

/-- The regular expression that a text writes, if it writes one for the engine at hand. -/
def ofText? [Engine] (source : String) : Option Regex := Engine.compile? source

end Regex

structure PatternCache where
  compiled : List (String × Regex) := []
deriving Inhabited

namespace PatternCache

/-- The number of patterns that are kept at most. -/
def capacity : Nat := 1024

/-- The cache without patterns. -/
def empty : PatternCache := {}

/-- The compiled form of a pattern, if it is kept. -/
def find? (cache : PatternCache) (pattern : String) : Option Regex :=
  (cache.compiled.find? fun entry => entry.1 == pattern).map (·.2)

/-- Keeps a pattern. A full cache is emptied first. -/
def keep (cache : PatternCache) (pattern : String) (regex : Regex) : PatternCache :=
  if cache.compiled.length ≥ capacity then ⟨[(pattern, regex)]⟩
  else ⟨(pattern, regex) :: cache.compiled⟩

/-- Whether a value matches a pattern, and the cache after the test. What is no pattern has no answer. -/
def fits? [Regex.Engine] (cache : PatternCache) (value pattern : String) : Option Bool × PatternCache :=
  match cache.find? pattern with
  | some regex => (some (regex.matchesText value), cache)
  | none =>
    match Regex.ofText? pattern with
    | some regex => (some (regex.matchesText value), cache.keep pattern regex)
    | none => (none, cache)

end PatternCache
end AccessControl
