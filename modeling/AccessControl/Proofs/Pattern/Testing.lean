import AccessControl.Error
import AccessControl.Proofs.Pattern.PatternCache
import Mathlib.Data.List.Nodup
/-!
Tests that are made one after another through a cache of patterns. Each answer is that of the pattern compiled
on the spot. What the cache holds is told by the latest tests, back to the one at which it was last emptied: just
those of their patterns that compile, every one once, and no more than there is room for.
-/
namespace AccessControl
variable [Regex.Engine]

/-- The answer to a test whose pattern is compiled on the spot. -/
def Regex.test (value pattern : String) : Except Error Bool :=
  match ofText? pattern with
  | some regex => .ok (regex.matchesText value)
  | none => .error (.evaluation (.invalidPattern pattern))

namespace PatternCache
variable {cache : PatternCache} {calls recent : List (String × String)} {pattern : String} {regex : Regex}

/-- The answers to tests of values against patterns, one after another, and the cache after them. -/
def testEach (cache : PatternCache) : List (String × String) → List (Except Error Bool) × PatternCache
  | [] => ([], cache)
  | (value, pattern) :: rest =>
    let (answer, after) := cache.test value pattern
    let (answers, final) := after.testEach rest
    (answer :: answers, final)

/-- What a test can come to. -/
inductive Tested (cache : PatternCache) (value pattern : String) : Except Error Bool × PatternCache → Prop
  | held {regex : Regex} (found : cache.find? pattern = some regex) :
      Tested cache value pattern (.ok (regex.matchesText value), cache)
  | compiled {regex : Regex} (absent : cache.find? pattern = none)
      (compiles : Regex.ofText? pattern = some regex) :
      Tested cache value pattern (.ok (regex.matchesText value), cache.keep pattern regex)
  | refused (invalid : Regex.ofText? pattern = none) :
      Tested cache value pattern (.error (.evaluation (.invalidPattern pattern)), cache)

theorem tested_test (cache : PatternCache) (value pattern : String) :
    Tested cache value pattern (cache.test value pattern) := by
  unfold test fits?
  cases found : cache.find? pattern with
  | some regex => exact .held found
  | none =>
    cases compiles : Regex.ofText? pattern with
    | some regex => exact .compiled found compiles
    | none => exact .refused compiles

/-- A test that a matcher makes during its evaluation is such a test. -/
theorem run_apply_regexMatch (cache : PatternCache) (value pattern : String) :
    ((Term.apply .regexMatch value pattern).adapt Error.evaluation).run cache = cache.test value pattern := by
  show (Except.mapError _ (Term.fitsPattern value pattern cache).1, _) = _
  unfold Term.fitsPattern test
  rcases cache.fits? value pattern with ⟨answer | _, after⟩ <;> rfl

/-- An entry is the one of a pattern just when it is what this pattern compiles to. -/
theorem eq_entry_iff (compiles : Regex.ofText? pattern = some regex) {other : String} {compiled : Regex} :
    (other, compiled) = (pattern, regex) ↔ other = pattern ∧ Regex.ofText? other = some compiled := by
  rw [Prod.mk.injEq]
  refine and_congr_right ?_
  rintro rfl
  rw [compiles, Option.some_inj, eq_comm]

/-- A cache holds just what the patterns of some tests compile to, every pattern once, and 1024 at most. -/
structure Holds (cache : PatternCache) (recent : List (String × String)) : Prop where
  mem_iff : ∀ pattern regex, (pattern, regex) ∈ cache.compiled ↔
    pattern ∈ recent.map (·.2) ∧ Regex.ofText? pattern = some regex
  distinct : (cache.compiled.map (·.1)).Nodup
  bounded : cache.compiled.length ≤ 1024

theorem holds_empty : empty.Holds [] := by
  refine ⟨?_, List.nodup_nil, Nat.zero_le _⟩
  intro pattern regex
  simp [empty]

namespace Holds
variable (holds : cache.Holds recent)
include holds

/-- A test does not add to what is held if its pattern is held already, or is none. -/
theorem same (known : pattern ∈ recent.map (·.2) ∨ Regex.ofText? pattern = none) (value : String) :
    cache.Holds (recent ++ [(value, pattern)]) := by
  refine ⟨?_, holds.distinct, holds.bounded⟩
  intro other compiled
  rw [holds.mem_iff, List.map_append, List.mem_append, List.map_singleton, List.mem_singleton]
  constructor
  · exact fun kept => ⟨.inl kept.1, kept.2⟩
  · rintro ⟨old | rfl, compiles⟩
    · exact ⟨old, compiles⟩
    · rcases known with old | invalid
      · exact ⟨old, compiles⟩
      · cases invalid.symm.trans compiles

/-- As long as there is room, a new pattern is held with the others. -/
theorem keep (room : cache.compiled.length < capacity) (absent : cache.find? pattern = none)
    (compiles : Regex.ofText? pattern = some regex) (value : String) :
    (cache.keep pattern regex).Holds (recent ++ [(value, pattern)]) := by
  rw [PatternCache.keep, if_neg (Nat.not_le.2 room)]
  refine ⟨?_, List.nodup_cons.2 ⟨not_mem_of_find? absent, holds.distinct⟩, room⟩
  intro other compiled
  rw [List.mem_cons, eq_entry_iff compiles, holds.mem_iff, ← or_and_right, or_comm]
  rw [List.map_append, List.mem_append, List.map_singleton, List.mem_singleton]

end Holds

/-- Where there is no room left, a new pattern is all that is held after it came. -/
theorem holds_keep_of_full (full : capacity ≤ cache.compiled.length)
    (compiles : Regex.ofText? pattern = some regex) (value : String) :
    (cache.keep pattern regex).Holds [(value, pattern)] := by
  rw [PatternCache.keep, if_pos full]
  refine ⟨?_, List.nodup_singleton _, (by decide : 0 < capacity)⟩
  intro other compiled
  rw [List.mem_singleton, eq_entry_iff compiles, List.map_singleton, List.mem_singleton]

/-- More different patterns of some tests compile than there is room for. -/
def Overflowing (calls : List (String × String)) : Prop :=
  ∃ patterns : List String, patterns.Nodup ∧ capacity < patterns.length ∧
    ∀ pattern ∈ patterns, pattern ∈ calls.map (·.2) ∧ ∃ regex, Regex.ofText? pattern = some regex

theorem Overflowing.append (overflowing : Overflowing calls) (later : List (String × String)) :
    Overflowing (calls ++ later) := by
  obtain ⟨patterns, distinct, many, compile⟩ := overflowing
  refine ⟨patterns, distinct, many, ?_⟩
  intro pattern inside
  rw [List.map_append]
  exact ⟨List.mem_append_left _ (compile pattern inside).1, (compile pattern inside).2⟩

/-- Tests that are the latest of some: all of them, unless these have too many patterns, and always the last. -/
structure Latest (recent calls : List (String × String)) : Prop where
  suffix : recent <:+ calls
  nonempty : calls ≠ [] → recent ≠ []
  whole : recent = calls ∨ Overflowing calls

theorem latest_nil : Latest [] [] := ⟨List.suffix_rfl, id, .inl rfl⟩

namespace Latest
variable (latest : Latest recent calls)
include latest

theorem snoc (call : String × String) : Latest (recent ++ [call]) (calls ++ [call]) := by
  refine ⟨?_, fun _ => List.append_ne_nil_of_right_ne_nil _ (List.cons_ne_nil _ _), ?_⟩
  · obtain ⟨earlier, parted⟩ := latest.suffix
    exact ⟨earlier, by rw [← parted, List.append_assoc]⟩
  · rcases latest.whole with same | overflowing
    · exact .inl (congrArg (· ++ [call]) same)
    · exact .inr (overflowing.append [call])

/-- A cache is emptied for a new pattern only if it holds as many others as there is room for. -/
theorem restart (holds : cache.Holds recent) (full : capacity ≤ cache.compiled.length)
    (absent : cache.find? pattern = none) (compiles : Regex.ofText? pattern = some regex) (value : String) :
    Latest [(value, pattern)] (calls ++ [(value, pattern)]) := by
  refine ⟨List.suffix_append _ _, fun _ => List.cons_ne_nil _ _, .inr ?_⟩
  -- The patterns that are held and the new one are too many.
  refine ⟨pattern :: cache.compiled.map (·.1), List.nodup_cons.2 ⟨not_mem_of_find? absent, holds.distinct⟩, ?_, ?_⟩
  · rw [List.length_cons, List.length_map]
    exact Nat.lt_succ_of_le full
  · intro other inside
    rw [List.map_append, List.mem_append, List.map_singleton, List.mem_singleton]
    rcases List.mem_cons.1 inside with rfl | kept
    · exact ⟨.inr rfl, regex, compiles⟩
    · obtain ⟨entry, stored, rfl⟩ := List.mem_map.1 kept
      obtain ⟨old, compiled⟩ := (holds.mem_iff entry.1 entry.2).1 stored
      exact ⟨.inl (latest.suffix.map _ |>.subset old), entry.2, compiled⟩

end Latest

/-- A cache, after some tests, holds the patterns of the latest of them. -/
def After (calls : List (String × String)) (cache : PatternCache) : Prop :=
  ∃ recent, Latest recent calls ∧ cache.Holds recent

/-- One more test gives the answer of the pattern itself, whatever has been tested before. -/
theorem After.test (held : After calls cache) (value pattern : String) :
    (cache.test value pattern).1 = Regex.test value pattern ∧
      After (calls ++ [(value, pattern)]) (cache.test value pattern).2 := by
  obtain ⟨recent, latest, holds⟩ := held
  have tested := tested_test cache value pattern
  unfold Regex.test
  generalize cache.test value pattern = result at tested ⊢
  cases tested with
  | held found =>
    -- The pattern has been tested since the cache was last emptied, so this test adds nothing.
    obtain ⟨old, compiles⟩ := (holds.mem_iff _ _).1 (mem_of_find? found)
    rw [compiles]
    exact ⟨rfl, _, latest.snoc _, holds.same (.inl old) value⟩
  | compiled absent compiles =>
    rw [compiles]
    refine ⟨rfl, ?_⟩
    rcases Nat.lt_or_ge cache.compiled.length capacity with room | full
    · exact ⟨_, latest.snoc _, holds.keep room absent compiles value⟩
    · exact ⟨_, latest.restart holds full absent compiles value, holds_keep_of_full full compiles value⟩
  | refused invalid =>
    rw [invalid]
    exact ⟨rfl, _, latest.snoc _, holds.same (.inr invalid) value⟩

theorem After.testEach {earlier : List (String × String)} (held : After earlier cache)
    (calls : List (String × String)) :
    (cache.testEach calls).1 = (calls.map fun call => Regex.test call.1 call.2) ∧
      After (earlier ++ calls) (cache.testEach calls).2 := by
  -- What the cache holds is told by all tests so far, hence the generalization over the earlier ones.
  induction calls generalizing earlier cache with
  | nil => exact ⟨rfl, by rwa [List.append_nil]⟩
  | cons call rest ih =>
    obtain ⟨answer, next⟩ := held.test call.1 call.2
    obtain ⟨answers, final⟩ := ih next
    rw [List.append_assoc] at final
    exact ⟨congrArg₂ List.cons answer answers, final⟩

/-- Whatever is tested through a cache, each answer is that of the pattern compiled on the spot. After any number
of tests the cache holds the patterns of the latest ones: those that compile and no others, every one once with
what it compiles to, and never more than there is room for. A test that a matcher makes next is no exception. -/
theorem testEach_transparent (calls : List (String × String)) :
    (empty.testEach calls).1 = (calls.map fun call => Regex.test call.1 call.2) ∧
    After calls (empty.testEach calls).2 ∧
    ∀ value pattern, ∃ after,
      ((Term.apply .regexMatch value pattern).adapt Error.evaluation).run (empty.testEach calls).2 =
        (Regex.test value pattern, after) ∧
      After (calls ++ [(value, pattern)]) after := by
  have started : After [] empty := ⟨[], latest_nil, holds_empty⟩
  obtain ⟨answers, held⟩ := started.testEach calls
  refine ⟨answers, held, ?_⟩
  intro value pattern
  obtain ⟨answer, next⟩ := held.test value pattern
  refine ⟨_, ?_, next⟩
  rw [run_apply_regexMatch, ← answer]

end PatternCache
end AccessControl
