import AccessControl.Pattern.PatternCache
/-!
Coherent caches of patterns: whatever is kept is what its text compiles to. A test through a coherent
cache answers as if the pattern were compiled on the spot, and leaves a coherent cache behind, also
when the cache was full and has been emptied.
-/
namespace AccessControl

/-- Every kept pattern is the compiled form of its text. -/
def PatternCache.Coherent [Regex.Engine] (cache : PatternCache) : Prop :=
  ∀ pattern regex, (pattern, regex) ∈ cache.compiled → Regex.ofText? pattern = some regex

namespace PatternCache
variable {cache : PatternCache} {pattern : String} {regex : Regex}

theorem mem_of_find? (found : cache.find? pattern = some regex) : (pattern, regex) ∈ cache.compiled := by
  obtain ⟨entry, first, same⟩ := Option.map_eq_some_iff.1 found
  have named : entry.1 = pattern := by simpa using List.find?_some first
  rw [← named, ← same]
  exact List.mem_of_find?_eq_some first

theorem not_mem_of_find? (absent : cache.find? pattern = none) : pattern ∉ cache.compiled.map (·.1) := by
  intro inside
  obtain ⟨entry, kept, named⟩ := List.mem_map.1 inside
  refine List.find?_eq_none.1 (Option.map_eq_none_iff.1 absent) entry kept ?_
  exact beq_iff_eq.2 named

variable [Regex.Engine]

theorem coherent_empty : empty.Coherent := by
  intro pattern regex kept
  exact absurd kept List.not_mem_nil

namespace Coherent
variable (coherent : cache.Coherent)
include coherent

theorem ofText?_of_find? (found : cache.find? pattern = some regex) : Regex.ofText? pattern = some regex :=
  coherent pattern regex (mem_of_find? found)

theorem keep (compiles : Regex.ofText? pattern = some regex) :
    (cache.keep pattern regex).Coherent := by
  unfold PatternCache.keep
  intro other compiled kept
  split at kept
  · cases List.mem_singleton.1 kept
    exact compiles
  · rcases List.mem_cons.1 kept with same | old
    · cases same
      exact compiles
    · exact coherent other compiled old

/-- A test through a coherent cache gives the answer of the pattern itself. -/
theorem fits? (value pattern : String) :
    ∃ after, cache.fits? value pattern =
        ((Regex.ofText? pattern).map fun regex => regex.matchesText value, after) ∧
      after.Coherent := by
  unfold PatternCache.fits?
  cases found : cache.find? pattern with
  | some regex =>
    rw [coherent.ofText?_of_find? found]
    exact ⟨cache, rfl, coherent⟩
  | none =>
    cases compiles : Regex.ofText? pattern with
    | none => exact ⟨cache, rfl, coherent⟩
    | some regex => exact ⟨cache.keep pattern regex, rfl, coherent.keep compiles⟩

end Coherent
end PatternCache
end AccessControl
