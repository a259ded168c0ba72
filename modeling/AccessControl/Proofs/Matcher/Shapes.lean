import AccessControl.Proofs.Matcher.Validity
/-!
Shapes of expressions. By its form alone an expression has a string or a boolean for its value: literals and
fields have strings, everything else has a boolean. Where each operand of a connective and each argument of a
function has the shape that is asked for, and the whole is boolean, evaluation never comes upon a value of the
wrong kind. What is left to go wrong is a pattern that is only known then and is none.
-/
namespace AccessControl

namespace Result
variable {α β ε : Type}

/-- A result is a value of some kind or one of some faults. -/
def Ends (good : α → Prop) (faulty : ε → Prop) : Except ε α → Prop
  | .ok value => good value
  | .error fault => faulty fault

variable {good : α → Prop} {faulty : ε → Prop} {result : Except ε α}

theorem Ends.bind {wanted : β → Prop} {next : α → Except ε β} (first : Ends good faulty result)
    (later : ∀ value, result = .ok value → good value → Ends wanted faulty (next value)) :
    Ends wanted faulty (result >>= next) := by
  cases result with
  | ok value => exact later value rfl first
  | error fault => exact first

theorem Ends.mono {wanted : α → Prop} (ends : Ends good faulty result)
    (implies : ∀ value, good value → wanted value) : Ends wanted faulty result := by
  cases result with
  | ok value => exact implies value ends
  | error fault => exact ends

end Result
open Result

/-- Whether a value is a string. -/
def Value.isText : Value → Bool
  | .text _ => true
  | .truth _ => false

namespace Expr

/-- Whether an expression has a string for its value: a literal or a field. -/
def isText : Expr → Bool
  | .literal _ | .path _ _ => true
  | _ => false

/-- The operands of a connective are boolean, and the arguments of a function are strings. -/
def Suited : Expr → Prop
  | .and left right | .or left right => left.isText = false ∧ right.isText = false
  | .not operand => operand.isText = false
  | .call _ arguments => ∀ argument ∈ arguments, argument.isText = true
  | _ => True

/-- A test of a pattern that is not written out, so that it is known only when the test is made. -/
def IsOpenTest (model : Model) : Expr → Expr → Expr → Prop
  | .call name arguments, tested, pattern =>
    name = "regexMatch" ∧ model.roles.find? name = none ∧ arguments = [tested, pattern] ∧
      ∀ literal, pattern ≠ .literal literal
  | _, _, _ => False

end Expr

theorem ends_truthOf {faulty : Term.Fault → Prop} {value : Value} (shape : value.isText = false)
    (operator : String) : Ends (fun _ => True) faulty (Term.truthOf operator value) := by
  cases value with
  | truth _ => trivial
  | text _ => cases shape

theorem ends_textOf {faulty : Term.Fault → Prop} {value : Value} (shape : value.isText = true)
    (function : String) : Ends (fun text => value = .text text) faulty (Term.textOf function value) := by
  cases value with
  | truth _ => cases shape
  | text _ => rfl

theorem ends_applied [Regex.Engine] {faulty : Term.Fault → Prop} {function : Builtin} {left right : String}
    (allowed : function = .regexMatch → Regex.ofText? right = none → faulty (.invalidPattern right)) :
    Ends (fun _ => True) faulty (Term.applied function left right) := by
  cases function with
  | keyMatch => trivial
  | keyMatch2 => trivial
  | regexMatch =>
    unfold Term.applied
    cases compiled : Regex.ofText? right with
    | some regex => trivial
    | none => exact allowed rfl compiled

namespace Matcher
variable {model : Model} {type : String} {scope : Scope} {faulty : Term.Fault → Prop}

section
variable [Regex.Engine]

/-- A part with operands and arguments of the right shapes, which may fail at a pattern that is none if it is
a test whose pattern is not written out. -/
structure Sound (model : Model) (type : String) (scope : Scope) (faulty : Term.Fault → Prop)
    (part : Expr) : Prop where
  suited : part.Suited
  allowed : ∀ tested pattern, part.IsOpenTest model tested pattern →
    ∀ text, pattern.meaning model type scope = .ok (.text text) → Regex.ofText? text = none →
      faulty (.invalidPattern text)

/-- The value of a resolved expression has its shape, or there is a fault that may occur. -/
def EndsShaped (faulty : Term.Fault → Prop) (scope : Scope) (expr : Expr) (term : Term) : Prop :=
  Ends (fun value => value.isText = expr.isText) faulty (term.value scope)

/-- A call of a role function with strings for arguments has a boolean for its value. -/
theorem ends_linked {name : String} {shape : RoleShape} {terms : List Term} {term : Term}
    (texts : ∀ argument ∈ terms, Ends (fun value => value.isText = true) faulty (argument.value scope))
    (bound : bindLink name shape terms = .ok term) :
    Ends (fun value => value.isText = false) faulty (term.value scope) := by
  unfold bindLink at bound
  split at bound
  next member role =>
    cases bound
    unfold Term.value
    refine (texts member (by simp)).bind fun _ _ shape => (ends_textOf shape name).bind fun _ _ _ => ?_
    refine (texts role (by simp)).bind fun _ _ shape => (ends_textOf shape name).bind fun _ _ _ => ?_
    rfl
  next member role domain =>
    cases bound
    unfold Term.value
    refine (texts member (by simp)).bind fun _ _ shape => (ends_textOf shape name).bind fun _ _ _ => ?_
    refine (texts role (by simp)).bind fun _ _ shape => (ends_textOf shape name).bind fun _ _ _ => ?_
    refine (texts domain (by simp)).bind fun _ _ shape => (ends_textOf shape name).bind fun _ _ _ => ?_
    rfl
  next => cases bound

theorem ends_isAmong {terms : List Term} (sought : Value)
    (ends : ∀ item ∈ terms, Ends (fun _ => True) faulty (item.value scope)) :
    Ends (fun _ => True) faulty (Term.isAmong scope sought terms) := by
  induction terms with
  | nil => trivial
  | cons item rest ih =>
    rw [List.forall_mem_cons] at ends
    unfold Term.isAmong
    refine ends.1.bind fun found _ _ => ?_
    by_cases same : found = sought
    · rw [if_pos same]
      trivial
    · rw [if_neg same]
      exact ih ends.2

section
variable {fields : List String} (fits : scope.Fits model type fields)
include fits

/-- A field that has been resolved is there, and it is a string. -/
theorem exists_value_of_bindPath {first : String} {more : List String} {term : Term}
    (bound : bindPath model type first more = .ok term) :
    ∃ text, term.value scope = .ok (.text text) := by
  have agrees := Expr.agrees_field fits bound
  have either : (∃ text, Expr.field model type scope first more = .ok (.text text)) ∨
      Expr.field model type scope first more = .error .unbound := by
    unfold Expr.field Expr.named
    repeat' split
    all_goals simp
  obtain ⟨text, means⟩ := either.resolve_right agrees.bound
  exact ⟨text, Result.mapError_eq_ok.1 (agrees.same.trans means)⟩

/-- A call of a builtin function with strings for arguments has a boolean for its value, or the test of a
pattern from a field fails. -/
theorem ends_builtin {function : Builtin} {arguments : List Expr} {terms : List Term} {term : Term}
    (absent : model.roles.find? function.name = none)
    (sound : Sound model type scope faulty (.call function.name arguments))
    (related : List.Forall₂ (fun item term => bind model type item = .ok term) arguments terms)
    (texts : ∀ argument ∈ terms, Ends (fun value => value.isText = true) faulty (argument.value scope))
    (bound : bindBuiltin function.name function terms = .ok term) :
    Ends (fun value => value.isText = false) faulty (term.value scope) := by
  unfold bindBuiltin at bound
  split at bound
  next tested pattern =>
    split at bound
    next regex =>
      cases bound
      unfold Term.value
      refine (texts tested (by simp)).bind fun _ _ shape => (ends_textOf shape _).bind fun _ _ _ => ?_
      rfl
    next => cases bound
  next left right unwritten =>
    cases bound
    obtain ⟨tested, pattern, rfl⟩ := List.length_eq_two.1 related.length_eq
    obtain _ | ⟨-, _ | ⟨second, -⟩⟩ := related
    unfold Term.value
    refine (texts left (by simp)).bind fun _ _ shape => (ends_textOf shape _).bind fun _ _ _ => ?_
    refine (texts right (by simp)).bind fun value same shape => (ends_textOf shape _).bind fun text _ is => ?_
    refine (ends_applied ?_).bind fun _ _ _ => rfl
    rintro rfl none
    refine sound.allowed tested pattern ⟨rfl, absent, rfl, ?_⟩ text ?_ none
    · -- A pattern that is written out would have been compiled.
      rintro literal rfl
      cases second
      exact unwritten literal rfl rfl
    · rw [← (Expr.agrees_bind fits pattern second).same, same, is]
      rfl
  next => cases bound

end

mutual

-- By recursion on the expression: the parts of its operands are among its own, so that they suit one another.

/-- Where all parts of an expression suit one another, its value has its shape, or the test of a pattern
fails. -/
theorem ends_bind {fields : List String} (fits : scope.Fits model type fields) (expr : Expr)
    (sound : ∀ part ∈ expr.parts, Sound model type scope faulty part) {term : Term}
    (bound : bind model type expr = .ok term) : EndsShaped faulty scope expr term := by
  cases expr with
  | literal value =>
    cases bound
    rfl
  | constant value =>
    cases bound
    rfl
  | path first more =>
    obtain ⟨text, is⟩ := exists_value_of_bindPath fits bound
    rw [EndsShaped, is]
    rfl
  | call name arguments =>
    obtain ⟨here, inner⟩ := List.forall_mem_cons.1 sound
    obtain ⟨terms, resolved, called⟩ := Result.bind_eq_ok.1 bound
    have related := bindAll_eq_ok resolved
    have texts : ∀ argument ∈ terms,
        Ends (fun value => value.isText = true) faulty (argument.value scope) := by
      intro argument inside
      obtain ⟨item, listed, one⟩ := exists_of_forall₂ related inside
      have ends := ends_bindAll fits arguments inner item listed one
      rwa [EndsShaped, here.suited item listed] at ends
    unfold bindCall at called
    split at called
    next shape shaped => exact ends_linked texts called
    next absent =>
      split at called
      next function known =>
        obtain rfl := Builtin.ofName?_eq_some_iff.1 known
        exact ends_builtin fits absent here related texts called
      next => cases called
  | equal left right | unequal left right =>
    simp only [Expr.parts, List.forall_mem_cons, List.forall_mem_append] at sound
    obtain ⟨one, first, rest⟩ := Result.bind_eq_ok.1 bound
    obtain ⟨other, second, same⟩ := Result.bind_eq_ok.1 rest
    cases same
    unfold EndsShaped Term.value
    refine (ends_bind fits left sound.2.1 first).bind fun _ _ _ => ?_
    exact (ends_bind fits right sound.2.2 second).bind fun _ _ _ => rfl
  | and left right =>
    simp only [Expr.parts, List.forall_mem_cons, List.forall_mem_append] at sound
    obtain ⟨one, first, rest⟩ := Result.bind_eq_ok.1 bound
    obtain ⟨other, second, same⟩ := Result.bind_eq_ok.1 rest
    cases same
    obtain ⟨shape, shape'⟩ := sound.1.suited
    unfold EndsShaped Term.value
    refine (ends_bind fits left sound.2.1 first).bind fun _ _ is => ?_
    refine (ends_truthOf (is.trans shape) _).bind fun decided _ _ => ?_
    -- The right operand is left alone where the left one has decided.
    cases decided with
    | false => rfl
    | true =>
      refine (ends_bind fits right sound.2.2 second).bind fun _ _ is => ?_
      exact (ends_truthOf (is.trans shape') _).bind fun _ _ _ => rfl
  | or left right =>
    simp only [Expr.parts, List.forall_mem_cons, List.forall_mem_append] at sound
    obtain ⟨one, first, rest⟩ := Result.bind_eq_ok.1 bound
    obtain ⟨other, second, same⟩ := Result.bind_eq_ok.1 rest
    cases same
    obtain ⟨shape, shape'⟩ := sound.1.suited
    unfold EndsShaped Term.value
    refine (ends_bind fits left sound.2.1 first).bind fun _ _ is => ?_
    refine (ends_truthOf (is.trans shape) _).bind fun decided _ _ => ?_
    cases decided with
    | true => rfl
    | false =>
      refine (ends_bind fits right sound.2.2 second).bind fun _ _ is => ?_
      exact (ends_truthOf (is.trans shape') _).bind fun _ _ _ => rfl
  | not operand =>
    obtain ⟨here, inner⟩ := List.forall_mem_cons.1 sound
    obtain ⟨one, first, same⟩ := Result.bind_eq_ok.1 bound
    cases same
    unfold EndsShaped Term.value
    refine (ends_bind fits operand inner first).bind fun _ _ is => ?_
    exact (ends_truthOf (is.trans here.suited) _).bind fun _ _ _ => rfl
  | within element items =>
    simp only [Expr.parts, List.forall_mem_cons, List.forall_mem_append] at sound
    obtain ⟨one, first, rest⟩ := Result.bind_eq_ok.1 bound
    obtain ⟨others, resolved, same⟩ := Result.bind_eq_ok.1 rest
    cases same
    unfold EndsShaped Term.value
    refine (ends_bind fits element sound.2.1 first).bind fun sought _ _ => ?_
    refine (ends_isAmong sought ?_).bind fun _ _ _ => rfl
    intro term inside
    obtain ⟨item, listed, second⟩ := exists_of_forall₂ (bindAll_eq_ok resolved) inside
    exact (ends_bindAll fits items sound.2.2 item listed second).mono fun _ _ => trivial

theorem ends_bindAll {fields : List String} (fits : scope.Fits model type fields) (items : List Expr)
    (sound : ∀ part ∈ Expr.partsAll items, Sound model type scope faulty part) :
    ∀ item ∈ items, ∀ {term : Term}, bind model type item = .ok term → EndsShaped faulty scope item term := by
  cases items with
  | nil => exact nofun
  | cons item rest =>
    rw [Expr.partsAll, List.forall_mem_append] at sound
    rw [List.forall_mem_cons]
    exact ⟨fun bound => ends_bind fits item sound.1 bound, ends_bindAll fits rest sound.2⟩

end

/-- A text is no pattern, and a test in an expression has it for its pattern. -/
def Misses (model : Model) (type : String) (scope : Scope) (expr : Expr) (text : String) : Prop :=
  Regex.ofText? text = none ∧ ∃ part ∈ expr.parts, ∃ tested pattern,
    part.IsOpenTest model tested pattern ∧ pattern.meaning model type scope = .ok (.text text)

/-- A boolean expression whose parts suit one another has an answer, or a test in it misses. -/
theorem exists_value_or_misses {matcher : Matcher} {expr : Expr} {fields : List String}
    (fits : scope.Fits model matcher.type fields) (bound : bind model matcher.type expr = .ok matcher.root)
    (boolean : expr.isText = false) (suited : ∀ part ∈ expr.parts, part.Suited) :
    (∃ answer, matcher.value scope = .ok answer) ∨
      ∃ text, matcher.value scope = .error (.invalidPattern text) ∧
        Misses model matcher.type scope expr text := by
  let faulty : Term.Fault → Prop := fun fault =>
    ∃ text, fault = .invalidPattern text ∧ Misses model matcher.type scope expr text
  have sound : ∀ part ∈ expr.parts, Sound model matcher.type scope faulty part := by
    intro part inside
    refine ⟨suited part inside, ?_⟩
    intro tested pattern test text means none
    exact ⟨text, rfl, none, part, inside, tested, pattern, test, means⟩
  have ends := ends_bind fits expr sound bound
  unfold EndsShaped at ends
  unfold value
  cases result : matcher.root.value scope with
  | error fault =>
    rw [result] at ends
    obtain ⟨text, rfl, misses⟩ := ends
    exact .inr ⟨text, rfl, misses⟩
  | ok value =>
    rw [result] at ends
    cases value with
    | truth answer => exact .inl ⟨answer, rfl⟩
    | text _ => cases ends.trans boolean

/-- An expression that is a string is bound to a string. -/
theorem exists_text_of_isText {expr : Expr} {fields : List String} (fits : scope.Fits model type fields)
    {term : Term} (bound : bind model type expr = .ok term) (string : expr.isText = true) :
    ∃ text, term.value scope = .ok (.text text) := by
  cases expr with
  | literal text =>
    cases bound
    exact ⟨text, rfl⟩
  | path first more => exact exists_value_of_bindPath fits bound
  | _ => cases string

/-- A compiled matcher that is boolean and whose parts suit one another has an answer on every request and
every rule that are as long as their declarations, for any role relations there may be and whatever it has been
evaluated on before, unless it comes to a test whose pattern is not written out and is no pattern there. A
matcher that is a string has none on any of them. -/
theorem eval_shaped {model : Model} {matcher : Matcher} (compiles : compile model = .ok matcher) :
    ∃ expr fields, parse model.matcher = .ok expr ∧ model.policies.find? matcher.type = some fields ∧
      ∀ (earlier : List Scope) (scope : Scope), scope.request.length = model.request.length →
        scope.rule.length = fields.length →
        let result := matcher.evalAfter earlier scope
        (expr.isText = false → (∀ part ∈ expr.parts, part.Suited) →
          ((∃ answer, result = .ok answer) ∨
            ∃ text, result = .error (.invalidPattern text) ∧ Misses model matcher.type scope expr text ∧
              (Error.evaluation (.invalidPattern text)).report =
                .evaluation ("invalid regex " ++ Report.tick text)) ∧
          ((∀ part ∈ expr.parts, ∀ tested pattern, ¬part.IsOpenTest model tested pattern) →
            ∃ answer, result = .ok answer)) ∧
        (expr.isText = true → ∃ text, result = .error (.textResult text)) := by
  obtain ⟨expr, parsed, selected, bound⟩ := compile_eq_ok.1 compiles
  obtain ⟨fields, typed⟩ := find?_of_typeOf selected
  refine ⟨expr, fields, parsed, typed, ?_⟩
  intro earlier scope request rule
  have fits : scope.Fits model matcher.type fields := ⟨typed, request, rule⟩
  simp only [evalAfter_eq_value]
  refine ⟨?_, ?_⟩
  · intro boolean suited
    obtain answered | ⟨text, failed, misses⟩ := exists_value_or_misses fits bound boolean suited
    · exact ⟨.inl answered, fun _ => answered⟩
    · refine ⟨.inr ⟨text, failed, misses, rfl⟩, ?_⟩
      intro closed
      obtain ⟨-, part, inside, tested, pattern, test, -⟩ := misses
      exact absurd test (closed part inside tested pattern)
  · intro string
    obtain ⟨text, is⟩ := exists_text_of_isText fits bound string
    refine ⟨text, ?_⟩
    unfold value
    rw [is]
    rfl

end

/-- A test whose pattern is taken from the rule misses where the rule holds no pattern. -/
theorem eval_shaped_of_patterns : compile patternModel = .ok patternMatcher ∧
    ∀ relations, patternMatcher.evalAfter [] ⟨["read"], ["("], relations⟩ = .error (.invalidPattern "(") ∧
      Regex.ofText? "(" = none := by
  have compiles : compile patternModel = .ok patternMatcher := by cbv
  obtain ⟨expr, fields, parsed, typed, shaped⟩ := eval_shaped compiles
  refine ⟨compiles, ?_⟩
  intro relations
  have declared : fields = ["act"] := by
    have known : patternModel.policies.find? patternMatcher.type = some ["act"] := by decide
    exact Option.some.inj (typed.symm.trans known)
  have test : parse patternModel.matcher =
      .ok (.call "regexMatch" [.path "r" ["act"], .path "p" ["act"]]) := by cbv
  cases test.symm.trans parsed
  subst declared
  have failed : patternMatcher.evalAfter [] ⟨["read"], ["("], relations⟩ =
      .error (.invalidPattern "(") := by
    rw [evalAfter_eq_value]
    cbv
  obtain ⟨failing, -⟩ := shaped [] ⟨["read"], ["("], relations⟩ rfl rfl
  obtain ⟨⟨answer, answered⟩ | ⟨text, found, ⟨none, -⟩, -⟩, -⟩ := failing rfl (by
    simp [Expr.parts, Expr.partsAll, Expr.Suited, Expr.isText])
  · cases failed.symm.trans answered
  · cases failed.symm.trans found
    exact ⟨failed, none⟩

end Matcher
end AccessControl
