import AccessControl.Enforcer
import AccessControl.Proofs.Matcher.Binding
import AccessControl.Error
/-!
Which matchers are valid. That is told of the parts of an expression one by one, wherever they stand: each
path is a field, each call is one of a declared role function or of a builtin one with as many arguments as
it takes, and each pattern that is written out is one. Besides, no two policy types are mentioned. A matcher
is compiled just when it is valid, since every part is resolved, also one that no evaluation would come to.
-/
namespace AccessControl

def Builtin.name : Builtin → String
  | keyMatch => "keyMatch"
  | keyMatch2 => "keyMatch2"
  | regexMatch => "regexMatch"

theorem Builtin.ofName?_eq_some_iff {name : String} {function : Builtin} :
    ofName? name = some function ↔ name = function.name := by
  constructor
  · intro known
    unfold ofName? at known
    split at known <;> cases known <;> rfl
  · rintro rfl
    cases function <;> rfl

namespace Expr

mutual

/-- An expression and all that stand in it. -/
def parts : Expr → List Expr
  | .literal value => [.literal value]
  | .constant value => [.constant value]
  | .path first more => [.path first more]
  | .call name arguments => .call name arguments :: partsAll arguments
  | .equal left right => .equal left right :: (parts left ++ parts right)
  | .unequal left right => .unequal left right :: (parts left ++ parts right)
  | .and left right => .and left right :: (parts left ++ parts right)
  | .or left right => .or left right :: (parts left ++ parts right)
  | .not operand => .not operand :: parts operand
  | .within element items => .within element items :: (parts element ++ partsAll items)

/-- Some expressions and all that stand in them. -/
def partsAll : List Expr → List Expr
  | [] => []
  | item :: rest => parts item ++ partsAll rest

end

/-- A policy type that a path of the expression starts with. -/
def Mentions (model : Model) (expr : Expr) (type : String) : Prop :=
  type ∈ model.policies.names ∧ ∃ more, .path type more ∈ expr.parts

/-- The policy type that an expression is about: the only one that it mentions, or the first one if it
mentions none. -/
def Concerns (model : Model) (expr : Expr) (type : String) : Prop :=
  (expr.Mentions model type ∧ ∀ other, expr.Mentions model other → other = type) ∨
    ((∀ other, ¬expr.Mentions model other) ∧ model.policies.names.head? = some type)

/-- A path of two segments: a field of the request, or one of the rules of the policy type. -/
def IsField (model : Model) (type first : String) (more : List String) : Prop :=
  ∃ field, more = [field] ∧
    (first = "r" ∧ field ∈ model.request ∨
      first = type ∧ ∃ names, model.policies.find? type = some names ∧ field ∈ names)

/-- A call of a declared role function, or else of a builtin one, with as many arguments as it takes. -/
def IsCall (model : Model) (name : String) (arguments : List Expr) : Prop :=
  (∃ shape, model.roles.find? name = some shape ∧ arguments.length = shape.arity) ∨
    name ∈ ["keyMatch", "keyMatch2", "regexMatch"] ∧ arguments.length = 2

/-- What a part of a valid matcher is like, apart from the parts that stand in it. -/
def Proper [Regex.Engine] (model : Model) (type : String) : Expr → Prop
  | .path first more => IsField model type first more
  | .call name arguments => IsCall model name arguments ∧
      ∀ tested pattern, name = "regexMatch" → arguments = [tested, .literal pattern] →
        ∃ regex, Regex.ofText? pattern = some regex
  | _ => True

mutual

theorem mem_scopes_iff (expr : Expr) (first : String) :
    first ∈ expr.scopes ↔ ∃ more, .path first more ∈ expr.parts := by
  cases expr with
  | literal _ => simp [scopes, parts]
  | constant _ => simp [scopes, parts]
  | path => simp [scopes, parts]
  | call name arguments => simp [scopes, parts, mem_scopesAll_iff arguments]
  | equal left right | unequal left right | and left right | or left right =>
    simp [scopes, parts, mem_scopes_iff left, mem_scopes_iff right, exists_or]
  | not operand => simp [scopes, parts, mem_scopes_iff operand]
  | within element items =>
    simp [scopes, parts, mem_scopes_iff element, mem_scopesAll_iff items, exists_or]

theorem mem_scopesAll_iff (items : List Expr) (first : String) :
    first ∈ scopesAll items ↔ ∃ more, .path first more ∈ partsAll items := by
  cases items with
  | nil => simp [scopesAll, partsAll]
  | cons item rest =>
    simp [scopesAll, partsAll, mem_scopes_iff item, mem_scopesAll_iff rest, exists_or]

end

theorem mentions_iff {model : Model} {expr : Expr} {type : String} :
    expr.Mentions model type ↔ type ∈ expr.scopes.filter model.policies.has := by
  rw [List.mem_filter, mem_scopes_iff, Catalogue.has_iff_mem_names, Mentions, and_comm]

end Expr

namespace Matcher

theorem eraseDups_eq_nil_iff {names : List String} : names.eraseDups = [] ↔ names = [] := by
  cases names with
  | nil => simp
  | cons name rest => simp [List.eraseDups_cons]

theorem eraseDups_eq_singleton_iff {names : List String} {name : String} :
    names.eraseDups = [name] ↔ name ∈ names ∧ ∀ other ∈ names, other = name := by
  cases names with
  | nil => simp
  | cons first rest =>
    rw [List.eraseDups_cons, List.cons.injEq, eraseDups_eq_nil_iff, List.filter_eq_nil_iff]
    constructor
    · rintro ⟨rfl, same⟩
      exact ⟨List.mem_cons_self, by simpa using same⟩
    · rintro ⟨-, same⟩
      obtain ⟨rfl, later⟩ := List.forall_mem_cons.1 same
      exact ⟨rfl, by simpa using later⟩

/-- The policy type that is selected is the one that the expression is about. -/
theorem typeOf_eq_ok_iff {model : Model} {expr : Expr} {type : String} :
    typeOf model expr = .ok type ↔ expr.Concerns model type := by
  unfold typeOf Expr.Concerns
  simp only [Expr.mentions_iff]
  generalize expr.scopes.filter model.policies.has = mentioned
  split
  next none =>
    rw [eraseDups_eq_nil_iff] at none
    subst none
    cases model.policies.names.head? <;> simp
  next single only =>
    obtain ⟨inside, same⟩ := eraseDups_eq_singleton_iff.1 only
    constructor
    · rintro ⟨⟩
      exact .inl ⟨inside, same⟩
    · rintro (⟨-, same'⟩ | ⟨absent, -⟩)
      · exact congrArg Except.ok (same' single inside)
      · exact absurd inside (absent single)
  next some several =>
    refine iff_of_false nofun ?_
    rintro (only | ⟨absent, -⟩)
    · exact several type (eraseDups_eq_singleton_iff.2 only)
    · exact some (eraseDups_eq_nil_iff.2 (List.eq_nil_iff_forall_not_mem.2 absent))

/-- Two steps give a result if both of them do. -/
theorem exists_pair_iff {α β γ : Type} {one : Except Fault α} {other : Except Fault β}
    {make : α → β → γ} : (∃ result, (do return make (← one) (← other)) = Except.ok result) ↔
      (∃ value, one = .ok value) ∧ ∃ value, other = .ok value := by
  cases one with
  | error fault => simp [Bind.bind, Except.bind]
  | ok value => cases other <;> simp [Bind.bind, Except.bind, pure, Except.pure]

section
variable {model : Model} {type : String}

/-- Only a literal is resolved to a text. -/
theorem bind_eq_text [Regex.Engine] {expr : Expr} {value : String}
    (bound : bind model type expr = .ok (.text value)) : expr = .literal value := by
  cases expr with
  | literal other =>
    cases bound
    rfl
  | constant => cases bound
  | path first more =>
    change bindPath model type first more = _ at bound
    unfold bindPath at bound
    repeat' split at bound
    all_goals cases bound
  | call name arguments =>
    obtain ⟨terms, -, called⟩ := Result.bind_eq_ok.1 bound
    unfold bindCall bindLink bindBuiltin at called
    repeat' split at called
    all_goals cases called
  | equal | unequal | and | or | within =>
    obtain ⟨one, -, rest⟩ := Result.bind_eq_ok.1 bound
    obtain ⟨other, -, same⟩ := Result.bind_eq_ok.1 rest
    cases same
  | not operand =>
    obtain ⟨one, -, same⟩ := Result.bind_eq_ok.1 bound
    cases same

/-- Expressions are resolved one by one. -/
theorem bindAll_eq_ok [Regex.Engine] {items : List Expr} {terms : List Term}
    (bound : bindAll model type items = .ok terms) :
    List.Forall₂ (fun item term => bind model type item = .ok term) items terms := by
  induction items generalizing terms with
  | nil =>
    cases bound
    exact .nil
  | cons item rest ih =>
    obtain ⟨term, first, later⟩ := Result.bind_eq_ok.1 bound
    obtain ⟨others, parts, same⟩ := Result.bind_eq_ok.1 later
    cases same
    exact .cons first (ih parts)

theorem exists_bindLink_iff {relation : String} {shape : RoleShape} {terms : List Term} :
    (∃ term, bindLink relation shape terms = .ok term) ↔ terms.length = shape.arity := by
  constructor
  · rintro ⟨term, bound⟩
    unfold bindLink at bound
    split at bound
    next => rfl
    next => rfl
    next => cases bound
  · intro long
    cases shape with
    | global =>
      obtain ⟨member, role, rfl⟩ := List.length_eq_two.1 long
      exact ⟨_, rfl⟩
    | perDomain =>
      obtain ⟨member, role, domain, rfl⟩ := List.length_eq_three.1 long
      exact ⟨_, rfl⟩

theorem exists_bindBuiltin_iff [Regex.Engine] {name : String} {function : Builtin} {terms : List Term} :
    (∃ term, bindBuiltin name function terms = .ok term) ↔ terms.length = 2 ∧
      ∀ tested pattern, function = .regexMatch → terms = [tested, .text pattern] →
        ∃ regex, Regex.ofText? pattern = some regex := by
  constructor
  · rintro ⟨term, bound⟩
    unfold bindBuiltin at bound
    split at bound
    next tested pattern =>
      split at bound
      next regex compiles =>
        refine ⟨rfl, ?_⟩
        rintro _ _ - ⟨⟩
        exact ⟨regex, compiles⟩
      next => cases bound
    next left right unwritten =>
      refine ⟨rfl, ?_⟩
      rintro tested pattern rfl ⟨⟩
      exact absurd rfl (unwritten pattern rfl)
    next => cases bound
  · rintro ⟨long, written⟩
    obtain ⟨left, right, rfl⟩ := List.length_eq_two.1 long
    unfold bindBuiltin
    split
    next tested pattern same =>
      cases same
      obtain ⟨regex, compiles⟩ := written left pattern rfl rfl
      rw [compiles]
      exact ⟨_, rfl⟩
    next => exact ⟨_, rfl⟩
    next several _ => exact absurd rfl (several left right)

section
variable (keyed : model.Keyed) {fields : List String} (declared : model.policies.find? type = some fields)
include keyed

/-- A call whose arguments have been resolved can be resolved if it is proper itself. -/
theorem exists_bindCall_iff [Regex.Engine] {name : String} {arguments : List Expr} {terms : List Term}
    (bound : bindAll model type arguments = .ok terms) :
    (∃ term, bindCall model name terms = .ok term) ↔
      Expr.Proper model type (.call name arguments) := by
  have related := bindAll_eq_ok bound
  have long := related.length_eq
  unfold bindCall Expr.Proper Expr.IsCall
  cases shaped : model.roles.find? name with
  | some shape =>
    -- The key of a role type is the name of no builtin function.
    have own : name ∉ ["keyMatch", "keyMatch2", "regexMatch"] := by
      intro builtin
      have key := keyed.role name ((Catalogue.mem_names_iff _ _).2 ⟨shape, shaped⟩)
      simp only [List.mem_cons, List.not_mem_nil, or_false] at builtin
      rcases builtin with rfl | rfl | rfl <;> exact absurd key (by decide)
    have other : name ≠ "regexMatch" := by
      rintro rfl
      exact own (by decide)
    simp [exists_bindLink_iff, shaped, long, own, other]
  | none =>
    cases known : Builtin.ofName? name with
    | none =>
      have unknown : name ∉ ["keyMatch", "keyMatch2", "regexMatch"] := by
        intro builtin
        simp only [List.mem_cons, List.not_mem_nil, or_false] at builtin
        rcases builtin with rfl | rfl | rfl <;> cases known
      simp [shaped, unknown]
    | some function =>
      rw [Builtin.ofName?_eq_some_iff] at known
      subst known
      have builtin : function.name ∈ ["keyMatch", "keyMatch2", "regexMatch"] := by
        cases function <;> decide
      have test : function = .regexMatch ↔ function.name = "regexMatch" := by
        cases function <;> decide
      rw [exists_bindBuiltin_iff]
      constructor
      · rintro ⟨two, written⟩
        refine ⟨.inr ⟨builtin, long.trans two⟩, ?_⟩
        rintro tested pattern named rfl
        obtain _ | ⟨_, _ | ⟨second, ⟨⟩⟩⟩ := related
        cases second
        exact written _ pattern (test.2 named) rfl
      · rintro ⟨⟨shape, shaped', -⟩ | ⟨-, two⟩, written⟩
        · rw [shaped] at shaped'
          cases shaped'
        · refine ⟨long.symm.trans two, ?_⟩
          rintro tested pattern named rfl
          obtain _ | ⟨_, _ | ⟨second, ⟨⟩⟩⟩ := related
          obtain rfl := bind_eq_text second
          exact written _ pattern (test.1 named) rfl

include declared

theorem exists_bindPath_iff (first : String) (more : List String) :
    (∃ term, bindPath model type first more = .ok term) ↔ Expr.IsField model type first more := by
  have apart := keyed.ne_request declared
  unfold bindPath Expr.IsField
  match more with
  | [] => simp
  | _ :: _ :: _ => simp
  | [field] =>
    by_cases requested : first = "r"
    · subst requested
      cases placed : model.request.idxOf? field with
      | none => simp [requestScope, Model.requestIndex?, placed, List.idxOf?_eq_none_iff.1 placed, apart.symm]
      | some index =>
        have inside : field ∈ model.request := by
          rw [← List.isSome_idxOf?, placed]
          rfl
        simp [requestScope, Model.requestIndex?, placed, inside]
    · by_cases ruled : first = type
      · subst ruled
        have resolved := Model.policyIndex?_of_find? declared field
        cases placed : fields.idxOf? field with
        | none =>
          simp [requestScope, requested, declared, resolved, placed, List.idxOf?_eq_none_iff.1 placed]
        | some index =>
          have inside : field ∈ fields := by
            rw [← List.isSome_idxOf?, placed]
            rfl
          simp [requestScope, requested, declared, resolved, placed, inside]
      · simp [requestScope, requested, ruled]

end

variable [Regex.Engine]

mutual

/-- An expression can be resolved if all its parts are proper. -/
theorem exists_bind_iff (keyed : model.Keyed) {fields : List String}
    (declared : model.policies.find? type = some fields) (expr : Expr) :
    (∃ term, bind model type expr = .ok term) ↔ ∀ part ∈ expr.parts, part.Proper model type := by
  cases expr with
  | literal _ => simp [bind, Expr.parts, Expr.Proper]
  | constant _ => simp [bind, Expr.parts, Expr.Proper]
  | path first more => simp [bind, Expr.parts, Expr.Proper, exists_bindPath_iff keyed declared]
  | call name arguments =>
    rw [Expr.parts, List.forall_mem_cons, ← exists_bindAll_iff keyed declared arguments]
    constructor
    · rintro ⟨term, bound⟩
      obtain ⟨terms, resolved, called⟩ := Result.bind_eq_ok.1 bound
      exact ⟨(exists_bindCall_iff keyed resolved).1 ⟨term, called⟩, terms, resolved⟩
    · rintro ⟨proper, terms, resolved⟩
      obtain ⟨term, called⟩ := (exists_bindCall_iff keyed resolved).2 proper
      exact ⟨term, Result.bind_eq_ok.2 ⟨terms, resolved, called⟩⟩
  | equal left right | unequal left right | and left right | or left right =>
    rw [bind, exists_pair_iff, exists_bind_iff keyed declared left, exists_bind_iff keyed declared right]
    simp [Expr.parts, Expr.Proper, or_imp, forall_and]
  | not operand =>
    rw [Expr.parts, List.forall_mem_cons, ← exists_bind_iff keyed declared operand]
    constructor
    · rintro ⟨term, bound⟩
      obtain ⟨negated, resolved, -⟩ := Result.bind_eq_ok.1 bound
      exact ⟨trivial, negated, resolved⟩
    · rintro ⟨-, negated, resolved⟩
      exact ⟨.not negated, Result.bind_eq_ok.2 ⟨negated, resolved, rfl⟩⟩
  | within element items =>
    rw [bind, exists_pair_iff, exists_bind_iff keyed declared element, exists_bindAll_iff keyed declared items]
    simp [Expr.parts, Expr.Proper, or_imp, forall_and]

theorem exists_bindAll_iff (keyed : model.Keyed) {fields : List String}
    (declared : model.policies.find? type = some fields) (items : List Expr) :
    (∃ terms, bindAll model type items = .ok terms) ↔
      ∀ part ∈ Expr.partsAll items, part.Proper model type := by
  cases items with
  | nil => simp [bindAll, Expr.partsAll]
  | cons item rest =>
    rw [bindAll, exists_pair_iff, exists_bind_iff keyed declared item, exists_bindAll_iff keyed declared rest]
    simp [Expr.partsAll, or_imp, forall_and]

end

end

/-- The matcher of a model that is read from a text is compiled for a policy type just when its text is that
of an expression about this type, all parts of which are proper, wherever they stand. Otherwise the model is
refused for its matcher. -/
theorem compile_valid [Regex.Engine] {text : String} {model : Model} (read : Model.ofText text = .ok model) :
    (∀ type, (∃ matcher, compile model = .ok matcher ∧ matcher.type = type) ↔
      ∃ expr, parse model.matcher = .ok expr ∧ expr.Concerns model type ∧
        ∀ part ∈ expr.parts, part.Proper model type) ∧
    ∀ fault, compile model = .error fault →
      CompiledModel.compile model = .error (.matcher fault) ∧
        (Error.matcher fault).report = .matcher fault.detail := by
  have keyed := Model.keyed_ofText read
  refine ⟨?_, ?_⟩
  · intro type
    constructor
    · rintro ⟨matcher, compiled, rfl⟩
      obtain ⟨expr, parsed, selected, bound⟩ := compile_eq_ok.1 compiled
      obtain ⟨fields, declared⟩ := find?_of_typeOf selected
      exact ⟨expr, parsed, typeOf_eq_ok_iff.1 selected, (exists_bind_iff keyed declared expr).1 ⟨_, bound⟩⟩
    · rintro ⟨expr, parsed, concerns, proper⟩
      have selected := typeOf_eq_ok_iff.2 concerns
      obtain ⟨fields, declared⟩ := find?_of_typeOf selected
      obtain ⟨root, bound⟩ := (exists_bind_iff keyed declared expr).2 proper
      exact ⟨⟨root, type⟩, compile_eq_ok.2 ⟨expr, parsed, selected, bound⟩, rfl⟩
  · intro fault failed
    refine ⟨?_, rfl⟩
    unfold CompiledModel.compile
    rw [failed]
    rfl

end Matcher

namespace Gate

/-- The text of a model whose matcher would never come to its only fault. -/
def text : String := "r = who\np = who\ne = some(where (p.eft == allow))\nm = true || keyMatch(r.who)"

/-- The model itself. -/
def model : Model where
  request := ["who"]
  policies := .ofList [("p", ["who"])]
  roles := .ofList []
  effect := "some(where (p.eft == allow))"
  matcher := "true || keyMatch(r.who)"

theorem ofText_text : Model.ofText text = .ok model := by cbv

theorem parse_matcher : Matcher.parse model.matcher =
    .ok (.or (.constant true) (.call "keyMatch" [.path "r" ["who"]])) := by cbv

end Gate

namespace Matcher
open Gate

/-- The call lacks an argument, and therefore the matcher is refused as a whole. -/
theorem compile_valid_of_gate : Model.ofText text = .ok model ∧
    (¬∃ matcher, compile model = .ok matcher ∧ matcher.type = "p") ∧
    CompiledModel.compile model = .error (.matcher (.builtinArity "keyMatch")) := by
  have failed : compile model = .error (.builtinArity "keyMatch") := by cbv
  obtain ⟨valid, refused⟩ := compile_valid ofText_text
  refine ⟨ofText_text, ?_, (refused _ failed).1⟩
  rw [valid]
  rintro ⟨expr, parsed, -, proper⟩
  cases parse_matcher.symm.trans parsed
  obtain ⟨⟨shape, shaped, -⟩ | ⟨-, two⟩, -⟩ :=
    proper (.call "keyMatch" [.path "r" ["who"]]) (by simp [Expr.parts, Expr.partsAll])
  · cases shaped
  · cases two

end Matcher
end AccessControl
