import AccessControl.Pattern.Regex.Engine
import AccessControl.Proofs.Matcher.Caching
import AccessControl.Proofs.Matcher.Meaning
import AccessControl.Proofs.Model.Keys
import Mathlib
/-!
Binding preserves meaning. What a bound term evaluates to agrees with what the expression means that it
was made of, case by case over the expressions; and so a compiled matcher decides what its text says,
whatever has been evaluated before.
-/
namespace AccessControl

/-- A result agrees with a meaning: they are the same but for the wording of faults, and no name is
left unbound. -/
structure Agrees {α : Type} (result : Except Term.Fault α) (meaning : Except Flaw α) : Prop where
  same : result.mapError Term.Fault.flaw = meaning
  bound : meaning ≠ .error .unbound

namespace Agrees
variable {α β : Type} {result : Except Term.Fault α} {meaning : Except Flaw α}

theorem ok (value : α) : Agrees (pure value) (pure value) := ⟨rfl, nofun⟩

theorem error (fault : Term.Fault) (bound : fault.flaw ≠ .unbound) :
    Agrees (throw fault : Except Term.Fault α) (throw fault.flaw) := by
  refine ⟨rfl, ?_⟩
  intro same
  exact bound (Except.error.inj same)

theorem bind {next : α → Except Term.Fault β} {following : α → Except Flaw β}
    (first : Agrees result meaning) (later : ∀ value, Agrees (next value) (following value)) :
    Agrees (result >>= next) (meaning >>= following) := by
  obtain ⟨rfl, bound⟩ := first
  cases result with
  | ok value => exact later value
  | error fault => exact ⟨rfl, fun same => bound (congrArg Except.error (Except.error.inj same))⟩

theorem truthOf (operator : String) (value : Value) :
    Agrees (Term.truthOf operator value) (Expr.truthOf value) := by
  cases value with
  | truth value => exact ok value
  | text value => exact error (.notBoolean operator) nofun

theorem textOf (function : String) (value : Value) :
    Agrees (Term.textOf function value) (Expr.textOf value) := by
  cases value with
  | truth value => exact error (.notText function) nofun
  | text value => exact ok value

end Agrees

/-- A scope has a value for each field that the model declares for requests and for the rules of a policy
type. -/
structure Scope.Fits (scope : Scope) (model : Model) (type : String) (fields : List String) : Prop where
  typed : model.policies.find? type = some fields
  request : scope.request.length = model.request.length
  rule : scope.rule.length = fields.length

namespace Expr

/-- Where there are as many values as names, a name has the value at its place. -/
theorem lookup_zip {names values : List String} (long : values.length = names.length)
    {name : String} {index : Nat} (placed : names.idxOf? name = some index) :
    ∃ value, (names.zip values).lookup name = some value ∧ values[index]? = some value := by
  induction names generalizing values index with
  | nil => cases placed
  | cons first rest ih =>
    obtain ⟨value, values, rfl⟩ := List.exists_cons_of_length_eq_add_one long
    rw [List.idxOf?_cons] at placed
    by_cases here : first = name
    · subst here
      rw [if_pos BEq.rfl] at placed
      cases placed
      exact ⟨value, by simp, rfl⟩
    · rw [if_neg (by simpa using here)] at placed
      obtain ⟨before, there, rfl⟩ := Option.map_eq_some_iff.1 placed
      obtain ⟨found, looked, stands⟩ := ih (Nat.succ.inj long) there
      refine ⟨found, ?_, stands⟩
      have other : (name == first) = false := by simpa using Ne.symm here
      rw [List.zip_cons_cons, List.lookup_cons, other]
      exact looked

theorem lookup_zip_of_not_mem {names : List String} {name : String} (absent : name ∉ names)
    (values : List String) : (names.zip values).lookup name = none := by
  rw [List.lookup_eq_none_iff]
  intro entry inside
  have declared := (List.of_mem_zip inside).1
  have other : name ≠ entry.1 := fun same => absent (same ▸ declared)
  simpa using other

theorem agrees_named {names values : List String} (long : values.length = names.length)
    {name : String} {index : Nat} (placed : names.idxOf? name = some index) :
    Agrees (Term.fieldAt values index) (named names values name) := by
  obtain ⟨value, looked, stands⟩ := lookup_zip long placed
  unfold Term.fieldAt named
  rw [looked, stands]
  exact .ok _

section
variable [Regex.Engine] {model : Model} {type : String} {scope : Scope} {fields : List String}

/-- Terms agree one by one with the expressions that they come from. -/
def AgreeAll (model : Model) (type : String) (scope : Scope) : List Expr → List Term → Prop :=
  List.Forall₂ fun expr term => Agrees (term.value scope) (meaning model type scope expr)

/-- Resolved paths keep their meaning. -/
theorem agrees_field (fits : scope.Fits model type fields) {first : String} {more : List String}
    {term : Term} (bound : Matcher.bindPath model type first more = .ok term) :
    Agrees (term.value scope) (field model type scope first more) := by
  unfold Matcher.bindPath at bound
  split at bound
  next name =>
    split at bound
    next requested =>
      change first = "r" at requested
      split at bound
      next index placed =>
        cases bound
        simp only [field, if_pos requested]
        exact agrees_named fits.request placed
      next => cases bound
    next unrequested =>
      change ¬first = "r" at unrequested
      split at bound
      next ruled =>
        split at bound
        next index placed =>
          cases bound
          simp only [field, if_neg unrequested, if_pos ruled, fits.typed]
          rw [Model.policyIndex?_of_find? fits.typed] at placed
          exact agrees_named fits.rule placed
        next => cases bound
      next => cases bound
  next => cases bound

/-- A call of a role function whose arguments have been resolved keeps its meaning. -/
theorem agrees_link {name : String} {shape : RoleShape}
    (shaped : model.roles.find? name = some shape) {arguments : List Expr} {terms : List Term}
    (related : AgreeAll model type scope arguments terms) {term : Term}
    (bound : Matcher.bindLink name shape terms = .ok term) :
    Agrees (term.value scope) (meaning model type scope (.call name arguments)) := by
  have declared : model.roles.has name = true := by
    unfold Catalogue.has
    rw [shaped]
    rfl
  unfold Matcher.bindLink at bound
  split at bound
  next =>
    cases bound
    obtain _ | ⟨first, _ | ⟨second, ⟨⟩⟩⟩ := related
    unfold meaning Term.value
    simp only [texts, bind_assoc, pure_bind]
    refine first.bind fun value => (Agrees.textOf name value).bind fun member => ?_
    refine second.bind fun value => (Agrees.textOf name value).bind fun role => ?_
    unfold Term.isLinked called
    rw [if_pos declared]
    cases scope.roles.find? name with
    | some relation => exact .ok _
    | none => exact .ok _
  next =>
    cases bound
    obtain _ | ⟨first, _ | ⟨second, _ | ⟨third, ⟨⟩⟩⟩⟩ := related
    unfold meaning Term.value
    simp only [texts, bind_assoc, pure_bind]
    refine first.bind fun value => (Agrees.textOf name value).bind fun member => ?_
    refine second.bind fun value => (Agrees.textOf name value).bind fun role => ?_
    refine third.bind fun value => (Agrees.textOf name value).bind fun domain => ?_
    unfold Term.isLinked called
    rw [if_pos declared]
    cases scope.roles.find? name with
    | some relation => exact .ok _
    | none => exact .ok _
  next => cases bound

theorem agrees_applied {name : String} {function : Builtin} (absent : model.roles.find? name = none)
    (known : Builtin.ofName? name = some function) (left right : String) :
    Agrees (Term.applied function left right) (called model scope name [left, right]) := by
  have undeclared : ¬model.roles.has name = true := by
    unfold Catalogue.has
    rw [absent]
    exact Bool.false_ne_true
  unfold Builtin.ofName? at known
  unfold called
  rw [if_neg undeclared]
  split at known
  · cases known
    exact .ok _
  · cases known
    exact .ok _
  · cases known
    unfold Term.applied
    cases compiled : Regex.ofText? right with
    | some regex =>
      simp only [compiled]
      exact .ok _
    | none =>
      simp only [compiled]
      exact .error (.invalidPattern right) nofun
  · cases known

/-- A call of a builtin function whose arguments have been resolved keeps its meaning, also where the
pattern of a test has been compiled beforehand. -/
theorem agrees_builtin {name : String} {function : Builtin} (absent : model.roles.find? name = none)
    (known : Builtin.ofName? name = some function) {arguments : List Expr} {terms : List Term}
    (related : AgreeAll model type scope arguments terms) {term : Term}
    (bound : Matcher.bindBuiltin name function terms = .ok term) :
    Agrees (term.value scope) (meaning model type scope (.call name arguments)) := by
  unfold Matcher.bindBuiltin at bound
  split at bound
  next pattern =>
    split at bound
    next regex compiles =>
      cases bound
      obtain _ | ⟨first, _ | ⟨second, ⟨⟩⟩⟩ := related
      unfold meaning Term.value
      simp only [texts, bind_assoc, pure_bind]
      refine first.bind fun value => (Agrees.textOf _ value).bind fun tested => ?_
      -- The pattern means itself, so that the test is the one that the call stands for.
      have test : Agrees (Term.applied .regexMatch tested pattern)
          (called model scope name [tested, pattern]) := agrees_applied absent known tested pattern
      unfold Term.applied at test
      rw [compiles] at test
      rw [← second.same]
      exact test.bind fun _ => .ok _
    next => cases bound
  next =>
    cases bound
    obtain _ | ⟨first, _ | ⟨second, ⟨⟩⟩⟩ := related
    unfold meaning Term.value
    simp only [texts, bind_assoc, pure_bind]
    refine first.bind fun value => (Agrees.textOf _ value).bind fun left => ?_
    refine second.bind fun value => (Agrees.textOf _ value).bind fun right => ?_
    exact (agrees_applied absent known left right).bind fun _ => .ok _
  next => cases bound

theorem agrees_call {name : String} {arguments : List Expr} {terms : List Term}
    (related : AgreeAll model type scope arguments terms) {term : Term}
    (bound : Matcher.bindCall model name terms = .ok term) :
    Agrees (term.value scope) (meaning model type scope (.call name arguments)) := by
  unfold Matcher.bindCall at bound
  split at bound
  next shape shaped => exact agrees_link shaped related bound
  next absent =>
    split at bound
    next function known => exact agrees_builtin absent known related bound
    next => cases bound

theorem agrees_occurs {element : Value} {items : List Expr} {terms : List Term}
    (related : AgreeAll model type scope items terms) :
    Agrees (Term.isAmong scope element terms) (occurs model type scope element items) := by
  induction related with
  | nil => exact .ok _
  | cons first _ ih =>
    unfold Term.isAmong occurs
    refine first.bind fun found => ?_
    by_cases same : found = element
    · rw [if_pos same, if_pos same]
      exact .ok _
    · rw [if_neg same, if_neg same]
      exact ih

mutual

/-- Whatever an expression is bound to keeps its meaning. -/
theorem agrees_bind (fits : scope.Fits model type fields) (expr : Expr) {term : Term}
    (bound : Matcher.bind model type expr = .ok term) :
    Agrees (term.value scope) (meaning model type scope expr) := by
  cases expr with
  | literal value =>
    cases bound
    exact .ok _
  | constant value =>
    cases bound
    exact .ok _
  | path first more => exact agrees_field fits bound
  | call name arguments =>
    obtain ⟨terms, parts, called⟩ := Result.bind_eq_ok.1 bound
    exact agrees_call (agrees_bindAll fits arguments parts) called
  | equal left right =>
    obtain ⟨one, first, rest⟩ := Result.bind_eq_ok.1 bound
    obtain ⟨other, second, same⟩ := Result.bind_eq_ok.1 rest
    cases same
    unfold meaning Term.value
    exact (agrees_bind fits left first).bind fun _ => (agrees_bind fits right second).bind fun _ => .ok _
  | unequal left right =>
    obtain ⟨one, first, rest⟩ := Result.bind_eq_ok.1 bound
    obtain ⟨other, second, same⟩ := Result.bind_eq_ok.1 rest
    cases same
    unfold meaning Term.value
    exact (agrees_bind fits left first).bind fun _ => (agrees_bind fits right second).bind fun _ => .ok _
  | and left right =>
    obtain ⟨one, first, rest⟩ := Result.bind_eq_ok.1 bound
    obtain ⟨other, second, same⟩ := Result.bind_eq_ok.1 rest
    cases same
    unfold meaning Term.value
    refine (agrees_bind fits left first).bind fun value => (Agrees.truthOf _ value).bind fun decided => ?_
    cases decided with
    | true =>
      refine (agrees_bind fits right second).bind fun value => ?_
      exact (Agrees.truthOf _ value).bind fun _ => .ok _
    | false => exact .ok _
  | or left right =>
    obtain ⟨one, first, rest⟩ := Result.bind_eq_ok.1 bound
    obtain ⟨other, second, same⟩ := Result.bind_eq_ok.1 rest
    cases same
    unfold meaning Term.value
    refine (agrees_bind fits left first).bind fun value => (Agrees.truthOf _ value).bind fun decided => ?_
    cases decided with
    | true => exact .ok _
    | false =>
      refine (agrees_bind fits right second).bind fun value => ?_
      exact (Agrees.truthOf _ value).bind fun _ => .ok _
  | not operand =>
    obtain ⟨one, first, same⟩ := Result.bind_eq_ok.1 bound
    cases same
    unfold meaning Term.value
    refine (agrees_bind fits operand first).bind fun value => ?_
    exact (Agrees.truthOf _ value).bind fun _ => .ok _
  | within element items =>
    obtain ⟨one, first, rest⟩ := Result.bind_eq_ok.1 bound
    obtain ⟨others, parts, same⟩ := Result.bind_eq_ok.1 rest
    cases same
    unfold meaning Term.value
    refine (agrees_bind fits element first).bind fun sought => ?_
    exact (agrees_occurs (agrees_bindAll fits items parts)).bind fun _ => .ok _

theorem agrees_bindAll (fits : scope.Fits model type fields) (items : List Expr) {terms : List Term}
    (bound : Matcher.bindAll model type items = .ok terms) : AgreeAll model type scope items terms := by
  cases items with
  | nil =>
    cases bound
    exact .nil
  | cons item rest =>
    obtain ⟨one, first, later⟩ := Result.bind_eq_ok.1 bound
    obtain ⟨others, parts, same⟩ := Result.bind_eq_ok.1 later
    cases same
    exact .cons (agrees_bind fits item first) (agrees_bindAll fits rest parts)

end

end
end Expr

namespace Matcher

/-- The policy type that an expression is about is declared. -/
theorem find?_of_typeOf {model : Model} {expr : Expr} {type : String}
    (selected : typeOf model expr = .ok type) : ∃ fields, model.policies.find? type = some fields := by
  rw [← Catalogue.mem_names_iff, ← Catalogue.has_iff_mem_names]
  unfold typeOf at selected
  split at selected
  next =>
    split at selected
    next first listed =>
      cases selected
      exact (Catalogue.has_iff_mem_names _ _).2 (List.mem_of_mem_head? listed)
    next => cases selected
  next mentioned only =>
    cases selected
    have inside : type ∈ (expr.scopes.filter model.policies.has).eraseDups := by
      rw [only]
      exact List.mem_singleton_self type
    exact (List.mem_filter.1 (List.mem_eraseDups.1 inside)).2
  next => cases selected

/-- An expression over requests and the rules of one type is about this type. -/
theorem typeOf_eq_ok {model : Model} (keyed : model.Keyed) {type : String} {names : List String}
    (declared : model.policies.find? type = some names) {expr : Expr}
    (mentioned : ∀ scope ∈ expr.scopes, scope = "r" ∨ scope = type)
    (once : (expr.scopes.filter (· == type)).eraseDups = [type]) : typeOf model expr = .ok type := by
  have policy : model.policies.has type = true := by
    rw [Catalogue.has, declared]
    rfl
  have other := (keyed.ne_request declared).symm
  have types : expr.scopes.filter model.policies.has = expr.scopes.filter (· == type) := by
    apply List.filter_congr
    intro scope inside
    rcases mentioned scope inside with rfl | rfl
    · rw [keyed.not_has_request, beq_false_of_ne other]
    · rw [policy, beq_self_eq_true]
  unfold typeOf
  rw [types, once]

section
variable [Regex.Engine]

theorem compile_eq_ok {model : Model} {matcher : Matcher} :
    compile model = .ok matcher ↔ ∃ expr, parse model.matcher = .ok expr ∧
      typeOf model expr = .ok matcher.type ∧ bind model matcher.type expr = .ok matcher.root := by
  unfold compile
  rw [Result.bind_eq_ok]
  constructor
  · rintro ⟨expr, parsed, rest⟩
    obtain ⟨type, selected, rest⟩ := Result.bind_eq_ok.1 rest
    obtain ⟨root, bound, same⟩ := Result.bind_eq_ok.1 rest
    cases same
    exact ⟨expr, parsed, selected, bound⟩
  · rintro ⟨expr, parsed, selected, bound⟩
    refine ⟨expr, parsed, Result.bind_eq_ok.2 ⟨matcher.type, selected, ?_⟩⟩
    exact Result.bind_eq_ok.2 ⟨matcher.root, bound, rfl⟩

theorem agrees_value {model : Model} {matcher : Matcher} {expr : Expr} {scope : Scope}
    {fields : List String} (fits : scope.Fits model matcher.type fields)
    (bound : bind model matcher.type expr = .ok matcher.root) :
    Agrees (matcher.value scope) (expr.decision model matcher.type scope) := by
  unfold value Expr.decision
  refine (Expr.agrees_bind fits expr bound).bind fun result => ?_
  cases result with
  | truth value => exact .ok value
  | text value => exact .error (.textResult value) nofun

/-- A compiled matcher decides what its expression means, on every request and every rule that are as
long as their declarations, for any role relations there may be and whatever it has been evaluated on
before; and no name in the expression is left unbound. -/
theorem eval_agrees_with_meaning {model : Model} {matcher : Matcher}
    (compiles : compile model = .ok matcher) :
    ∃ expr fields, parse model.matcher = .ok expr ∧ typeOf model expr = .ok matcher.type ∧
      model.policies.find? matcher.type = some fields ∧
      ∀ (earlier : List Scope) (scope : Scope), scope.request.length = model.request.length →
        scope.rule.length = fields.length →
        let meaning := expr.decision model matcher.type scope
        (matcher.eval scope).mapError Term.Fault.flaw = meaning ∧
          (matcher.evalAfter earlier scope).mapError Term.Fault.flaw = meaning ∧
          meaning ≠ .error .unbound := by
  obtain ⟨expr, parsed, selected, bound⟩ := compile_eq_ok.1 compiles
  obtain ⟨fields, typed⟩ := find?_of_typeOf selected
  refine ⟨expr, fields, parsed, selected, typed, ?_⟩
  intro earlier scope request rule
  have agrees := agrees_value ⟨typed, request, rule⟩ bound
  refine ⟨?_, ?_, agrees.bound⟩
  · rw [eval_eq_value]
    exact agrees.same
  · rw [evalAfter_eq_value]
    exact agrees.same

end

/-- A model whose rules hold patterns, and its matcher. -/
def patternModel : Model where
  request := ["act"]
  policies := .ofList [("p", ["act"])]
  roles := .empty
  effect := "priority(p.eft)"
  matcher := "regexMatch(r.act, p.act)"

def patternMatcher : Matcher where
  root := .builtin .regexMatch (.requestField 0) (.policyField 0)
  type := "p"

/-- A test of a pattern that has been compiled for an earlier request, and one of what is no pattern. -/
theorem eval_agrees_with_meaning_of_patterns :
    ∃ expr, parse patternModel.matcher = .ok expr ∧
      ∀ pattern ∈ ["r.*d", "("],
        (patternMatcher.evalAfter [⟨["write"], ["r.*d"], .empty⟩]
          ⟨["read"], [pattern], .empty⟩).mapError Term.Fault.flaw =
            expr.decision patternModel "p" ⟨["read"], [pattern], .empty⟩ := by
  have compiles : compile patternModel = .ok patternMatcher := by cbv
  obtain ⟨expr, fields, parsed, -, typed, agrees⟩ := eval_agrees_with_meaning compiles
  refine ⟨expr, parsed, ?_⟩
  intro pattern _
  have declared : fields = ["act"] := by
    have known : patternModel.policies.find? patternMatcher.type = some ["act"] := by decide
    exact Option.some.inj (typed.symm.trans known)
  subst declared
  exact (agrees _ ⟨["read"], [pattern], .empty⟩ rfl rfl).2.1

end Matcher
end AccessControl
