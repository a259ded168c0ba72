import AccessControl.Matcher.Evaluation
import AccessControl.Proofs.Pattern.PatternCache
/-!
Evaluation of matchers without a cache. The cache is there for speed only: as long as it is coherent,
and it stays coherent, what a term evaluates to is a function of the term and of the scope alone.
-/
namespace AccessControl
variable [Regex.Engine]

/-- A step that fills a cache comes to one and the same result from every coherent cache, and leaves a
coherent cache behind. -/
def Yields {ε α : Type} (step : ExceptT ε (StateM PatternCache) α) (result : Except ε α) : Prop :=
  ∀ cache : PatternCache, cache.Coherent →
    ∃ after : PatternCache, step.run cache = (result, after) ∧ after.Coherent

namespace Yields
variable {ε δ α β : Type} {step : ExceptT ε (StateM PatternCache) α} {result : Except ε α}

theorem ok (value : α) :
    Yields (pure value : ExceptT ε (StateM PatternCache) α) (pure value) := by
  intro cache coherent
  exact ⟨cache, rfl, coherent⟩

theorem error (fault : ε) :
    Yields (throw fault : ExceptT ε (StateM PatternCache) α) (throw fault) := by
  intro cache coherent
  exact ⟨cache, rfl, coherent⟩

theorem lift (result : Except ε α) : Yields (liftM result) result := by
  cases result with
  | ok value => exact ok value
  | error fault => exact error fault

theorem bind {next : α → ExceptT ε (StateM PatternCache) β} {following : α → Except ε β}
    (first : Yields step result)
    (later : ∀ value, result = .ok value → Yields (next value) (following value)) :
    Yields (step >>= next) (result >>= following) := by
  intro cache coherent
  obtain ⟨middle, ran, kept⟩ := first cache coherent
  -- The second step starts from the cache that the first one leaves, also if the first one fails.
  have run : (step >>= next).run cache = match step.run cache with
      | (.ok value, after) => (next value).run after
      | (.error fault, after) => (.error fault, after) := by
    show (ExceptT.bindCont next (step.run cache).1 (step.run cache).2) = _
    rcases step.run cache with ⟨value | fault, after⟩ <;> rfl
  rw [run, ran]
  cases result with
  | error fault => exact ⟨middle, rfl, kept⟩
  | ok value => exact later value rfl middle kept

theorem adapt (change : ε → δ) (yields : Yields step result) :
    Yields (step.adapt change) (result.mapError change) := by
  intro cache coherent
  obtain ⟨after, ran, kept⟩ := yields cache coherent
  refine ⟨after, ?_, kept⟩
  show (Except.mapError change (step.run cache).1, (step.run cache).2) = _
  rw [ran]

end Yields

namespace Term

/-- The value of a builtin function, the pattern of a test being compiled on the spot. -/
def applied (function : Builtin) (left right : String) : Except Fault Bool :=
  match function with
  | .keyMatch => return Glob.matchesText right left
  | .keyMatch2 => return PathPattern.matchesText right left
  | .regexMatch =>
    match Regex.ofText? right with
    | some regex => return regex.matchesText left
    | none => throw (.invalidPattern right)

mutual

/-- The value of a term, without a cache. -/
def value (scope : Scope) : Term → Except Fault Value
  | .text value => return .text value
  | .truth value => return .truth value
  | .requestField index => fieldAt scope.request index
  | .policyField index => fieldAt scope.rule index
  | .linked relation member role => do
    let member ← textOf relation (← value scope member)
    let role ← textOf relation (← value scope role)
    return .truth (isLinked scope relation member role none)
  | .linkedIn relation member role domain => do
    let member ← textOf relation (← value scope member)
    let role ← textOf relation (← value scope role)
    let domain ← textOf relation (← value scope domain)
    return .truth (isLinked scope relation member role (some domain))
  | .builtin function left right => do
    let left ← textOf "function" (← value scope left)
    let right ← textOf "function" (← value scope right)
    return .truth (← applied function left right)
  | .fits tested regex => do
    return .truth (regex.matchesText (← textOf "regexMatch" (← value scope tested)))
  | .equal left right => return .truth ((← value scope left) == (← value scope right))
  | .unequal left right => return .truth ((← value scope left) != (← value scope right))
  | .and left right => do
    if ← truthOf "&&" (← value scope left) then
      return .truth (← truthOf "&&" (← value scope right))
    else return .truth false
  | .or left right => do
    if ← truthOf "||" (← value scope left) then return .truth true
    else return .truth (← truthOf "||" (← value scope right))
  | .not operand => return .truth (!(← truthOf "!" (← value scope operand)))
  | .within element items => do
    let element ← value scope element
    return .truth (← isAmong scope element items)

/-- Whether a value is among those of some terms, without a cache. -/
def isAmong (scope : Scope) (element : Value) : List Term → Except Fault Bool
  | [] => return false
  | item :: rest => do
    if (← value scope item) = element then return true
    else isAmong scope element rest

end

theorem yields_fitsPattern (tested pattern : String) :
    Yields (fitsPattern tested pattern) (applied .regexMatch tested pattern) := by
  intro cache coherent
  obtain ⟨after, test, kept⟩ := coherent.fits? tested pattern
  refine ⟨after, ?_, kept⟩
  show fitsPattern tested pattern cache = _
  unfold fitsPattern applied
  rw [test]
  cases Regex.ofText? pattern with
  | some regex => rfl
  | none => rfl

theorem yields_apply (function : Builtin) (left right : String) :
    Yields (apply function left right) (applied function left right) := by
  cases function with
  | keyMatch => exact .ok _
  | keyMatch2 => exact .ok _
  | regexMatch => exact yields_fitsPattern left right

mutual

theorem yields_eval (scope : Scope) (term : Term) : Yields (eval scope term) (value scope term) := by
  cases term with
  | text _ => exact .ok _
  | truth _ => exact .ok _
  | requestField index => exact .lift _
  | policyField index => exact .lift _
  | linked relation member role =>
    unfold eval value
    refine .bind (yields_eval scope member) fun _ _ => .bind (.lift _) fun _ _ => ?_
    refine .bind (yields_eval scope role) fun _ _ => .bind (.lift _) fun _ _ => ?_
    exact .ok _
  | linkedIn relation member role domain =>
    unfold eval value
    refine .bind (yields_eval scope member) fun _ _ => .bind (.lift _) fun _ _ => ?_
    refine .bind (yields_eval scope role) fun _ _ => .bind (.lift _) fun _ _ => ?_
    refine .bind (yields_eval scope domain) fun _ _ => .bind (.lift _) fun _ _ => ?_
    exact .ok _
  | builtin function left right =>
    unfold eval value
    refine .bind (yields_eval scope left) fun _ _ => .bind (.lift _) fun _ _ => ?_
    refine .bind (yields_eval scope right) fun _ _ => .bind (.lift _) fun _ _ => ?_
    exact .bind (yields_apply _ _ _) fun _ _ => .ok _
  | fits tested regex =>
    unfold eval value
    exact .bind (yields_eval scope tested) fun _ _ => .bind (.lift _) fun _ _ => .ok _
  | equal left right =>
    unfold eval value
    exact .bind (yields_eval scope left) fun _ _ => .bind (yields_eval scope right) fun _ _ => .ok _
  | unequal left right =>
    unfold eval value
    exact .bind (yields_eval scope left) fun _ _ => .bind (yields_eval scope right) fun _ _ => .ok _
  | and left right =>
    unfold eval value
    refine .bind (yields_eval scope left) fun _ _ => .bind (.lift _) fun decided _ => ?_
    cases decided with
    | true => exact .bind (yields_eval scope right) fun _ _ => .bind (.lift _) fun _ _ => .ok _
    | false => exact .ok _
  | or left right =>
    unfold eval value
    refine .bind (yields_eval scope left) fun _ _ => .bind (.lift _) fun decided _ => ?_
    cases decided with
    | true => exact .ok _
    | false => exact .bind (yields_eval scope right) fun _ _ => .bind (.lift _) fun _ _ => .ok _
  | not operand =>
    unfold eval value
    exact .bind (yields_eval scope operand) fun _ _ => .bind (.lift _) fun _ _ => .ok _
  | within element items =>
    unfold eval value
    refine .bind (yields_eval scope element) fun sought _ => ?_
    exact .bind (yields_evalWithin scope sought items) fun _ _ => .ok _

theorem yields_evalWithin (scope : Scope) (element : Value) (items : List Term) :
    Yields (evalWithin scope element items) (isAmong scope element items) := by
  cases items with
  | nil => exact .ok _
  | cons item rest =>
    unfold evalWithin isAmong
    refine .bind (yields_eval scope item) fun found _ => ?_
    by_cases same : found = element
    · rw [if_pos same, if_pos same]
      exact .ok _
    · rw [if_neg same, if_neg same]
      exact yields_evalWithin scope element rest

end

end Term

namespace Matcher

/-- Whether a rule matches a request, without a cache. -/
def value (matcher : Matcher) (scope : Scope) : Except Term.Fault Bool := do
  match ← matcher.root.value scope with
  | .truth value => return value
  | .text value => throw (.textResult value)

theorem yields_run (matcher : Matcher) (scope : Scope) :
    Yields (matcher.run scope) (matcher.value scope) := by
  unfold run value
  refine .bind (Term.yields_eval scope matcher.root) fun result _ => ?_
  cases result with
  | truth _ => exact .ok _
  | text _ => exact .error _

/-- The cache of a matcher that has been evaluated on some scopes before. -/
def cacheAfter (matcher : Matcher) (earlier : List Scope) : PatternCache :=
  earlier.foldl (fun cache scope => ((matcher.run scope).run cache).2) .empty

theorem coherent_cacheAfter (matcher : Matcher) (earlier : List Scope) :
    (matcher.cacheAfter earlier).Coherent := by
  unfold cacheAfter
  generalize start : PatternCache.empty = cache
  have coherent : cache.Coherent := start ▸ PatternCache.coherent_empty
  clear start
  induction earlier generalizing cache with
  | nil => exact coherent
  | cons scope rest ih =>
    obtain ⟨after, ran, kept⟩ := matcher.yields_run scope cache coherent
    apply ih
    show ((matcher.run scope).run cache).2.Coherent
    rw [ran]
    exact kept

/-- Whether a rule matches a request, after some evaluations that have filled the cache. -/
def evalAfter (matcher : Matcher) (earlier : List Scope) (scope : Scope) : Except Term.Fault Bool :=
  ((matcher.run scope).run (matcher.cacheAfter earlier)).1

/-- Earlier evaluations have no influence on later ones. -/
theorem evalAfter_eq_value (matcher : Matcher) (earlier : List Scope) (scope : Scope) :
    matcher.evalAfter earlier scope = matcher.value scope := by
  obtain ⟨after, ran, -⟩ := matcher.yields_run scope _ (matcher.coherent_cacheAfter earlier)
  unfold evalAfter
  rw [ran]

theorem eval_eq_value (matcher : Matcher) (scope : Scope) : matcher.eval scope = matcher.value scope :=
  matcher.evalAfter_eq_value [] scope

end Matcher
end AccessControl
