import AccessControl.Proofs.Matcher.Binding
import AccessControl.Proofs.Matcher.Printing
import AccessControl.Proofs.Model.WellFormed
/-!
The fields of a model in its matcher. A model may give a field any identifier for a name, also one of the
three words that are reserved in matchers. Every other field of the request or of a policy type can be
mentioned in the matcher, where it stands for its value. A field with a reserved name cannot: after the dot
comes no identifier then, and the matcher is refused.
-/
namespace AccessControl

namespace Token

/-- The words that are no identifiers in matchers. -/
def reserved : List String := ["true", "false", "in"]

variable {name : String} {text : List Char}

/-- An identifier of a model is a name in matchers unless it is reserved. -/
theorem isName_of_isIdentifier (identifier : Model.IsIdentifier name) (free : name ∉ reserved) :
    IsName name := by
  obtain ⟨first, more, spelt, starts, continues⟩ := identifier
  refine ⟨⟨first, more, spelt, ?_, ?_⟩, ?_⟩
  · simpa [startsWord] using starts
  · intro c inside
    simpa [continuesWord] using continues c inside
  · simpa [reserved, not_or] using free

theorem isName_of_isKey (key : Model.IsKey 'p' name) : IsName name := by
  have spelt : ∃ more, name.toList = 'p' :: more ∧ ∀ c ∈ more, c.isDigit = true := by
    rcases key with alone | ⟨digits, spelt, -, numeric, -⟩
    · exact ⟨[], alone, nofun⟩
    · exact ⟨digits, spelt, numeric⟩
  obtain ⟨more, spelt, numeric⟩ := spelt
  refine ⟨⟨'p', more, spelt, rfl, ?_⟩, ?_⟩
  · intro c inside
    simp [continuesWord, Char.isAlphanum, numeric c inside]
  · refine ⟨?_, ?_, ?_⟩ <;>
    · rintro rfl
      cases spelt

theorem spelling_ofWord (quote : Char) (word : List Char) : (ofWord word).spelling quote = word := by
  unfold ofWord
  split
  next same => exact same.symm
  next =>
    split
    next same => exact same.symm
    next =>
      split
      next same => exact same.symm
      next => exact String.toList_ofList

/-- Every identifier of a model is a word in matchers, reserved or not. -/
theorem named_ofWord (identifier : Model.IsIdentifier name) : (ofWord name.toList).Named := by
  by_cases free : name ∈ reserved
  · rcases List.mem_cons.1 free with rfl | free
    · trivial
    · rcases List.mem_cons.1 free with rfl | free
      · trivial
      · rw [List.mem_singleton.1 free]
        trivial
  · have named := isName_of_isIdentifier identifier free
    rw [named.ofWord_eq]
    exact named

theorem parted_ofWord (word : List Char) (parted : ∀ c ∈ text.head?, continuesWord c = false) :
    (ofWord word).Parted text := by
  unfold ofWord
  split
  next => exact parted
  next =>
    split
    next => exact parted
    next => split <;> exact parted

theorem ne_identifier_of_reserved (word : name ∈ reserved) (other : String) :
    ofWord name.toList ≠ identifier other := by
  unfold reserved at word
  simp only [List.mem_cons, List.not_mem_nil, or_false] at word
  rcases word with rfl | rfl | rfl
  · exact nofun
  · exact nofun
  · exact nofun

/-- The tokens of a field under the name of what it is a field of. -/
def ofField (scope name : String) : List Token := [identifier scope, dot, ofWord name.toList]

/-- A field is spelled with a dot, and whatever follows must not go on with its name. -/
theorem Spells.field {tokens : List Token} (scope name : String)
    (parted : ∀ c ∈ text.head?, continuesWord c = false) (rest : Spells tokens text) :
    Spells (ofField scope name ++ tokens) (scope.toList ++ '.' :: (name.toList ++ text)) := by
  have either : '"' = '"' ∨ '"' = '\'' := .inl rfl
  have word : Spells (ofWord name.toList :: tokens) (name.toList ++ text) := by
    have spelt := Spells.token either (parted_ofWord name.toList parted) rest
    rwa [spelling_ofWord] at spelt
  have dotted : Spells (dot :: ofWord name.toList :: tokens) ('.' :: (name.toList ++ text)) :=
    .token either trivial word
  refine .token either ?_ dotted
  intro c next
  cases next
  rfl

/-- Any token may stand between blanks. -/
theorem Spells.spaced {tokens : List Token} (token : Token) (rest : Spells tokens text) :
    Spells (token :: tokens) (' ' :: (token.spelling '"' ++ ' ' :: text)) :=
  .blank rfl (.token (.inl rfl) (parted_of_blank rfl token text) (.blank rfl rest))

end Token

namespace Matcher

/-- A field under the name of what it is a field of, as a matcher mentions it. -/
def fieldText (scope name : String) : String := scope ++ "." ++ name

/-- The text of a comparison. -/
def comparing (left right : String) : String := left ++ " == " ++ right

/-- The tokens of a comparison of two fields. -/
def comparingTokens (scope name scope' name' : String) : List Token :=
  Token.ofField scope name ++ .equal :: Token.ofField scope' name'

theorem spells_comparing {tokens : List Token} {text : List Char} (scope name scope' name' : String)
    (parted : ∀ c ∈ text.head?, Token.continuesWord c = false) (rest : Token.Spells tokens text) :
    Token.Spells (comparingTokens scope name scope' name' ++ tokens)
      ((comparing (fieldText scope name) (fieldText scope' name')).toList ++ text) := by
  have second := Token.Spells.field scope' name' parted rest
  have spaced := Token.Spells.spaced .equal second
  have whole := Token.Spells.field scope name (by simp [Token.continuesWord]) spaced
  simpa [comparing, fieldText, comparingTokens, Token.spelling] using whole

end Matcher

namespace Expr
open Parsed

/-- A field of a reserved name is not read: after the dot comes no identifier. -/
theorem readUnary_of_reserved {name : String} (word : name ∈ Token.reserved) (scope : String)
    (rest : List Token) :
    plain (readUnary (Token.ofField scope name ++ rest)) = .error .missingIdentifier := by
  have other := Token.ne_identifier_of_reserved word
  rw [plain_readUnary]
  change plain (readPrimary (.identifier scope :: .dot :: Token.ofWord name.toList :: rest)) = _
  rw [path_of_segments (fun after same => by cases same), plain_readSegments]
  cases next : Token.ofWord name.toList with
  | identifier segment => exact absurd next (other segment)
  | _ => rfl

theorem unaryForm_field {name : String} (named : Token.IsName name) (scope : String) :
    UnaryForm (Token.ofField scope name) (.path scope [name]) := by
  rw [Token.ofField, named.ofWord_eq]
  exact .primary (.path scope [name])

/-- A comparison is not read if one of its fields has a reserved name. -/
theorem readComparison_of_reserved {name name' : String} (identifier : Model.IsIdentifier name)
    (word : name ∈ Token.reserved ∨ name' ∈ Token.reserved) (scope scope' : String) (rest : List Token) :
    plain (readComparison (Matcher.comparingTokens scope name scope' name' ++ rest)) =
      .error .missingIdentifier := by
  rw [Matcher.comparingTokens, List.append_assoc, List.cons_append, plain_readComparison]
  by_cases first : name ∈ Token.reserved
  · rw [readUnary_of_reserved first]
    rfl
  · have named := Token.isName_of_isIdentifier identifier first
    rw [unary_complete (unaryForm_field named scope) (stops_cons (by decide) _)]
    change plain (readUnary (Token.ofField scope' name' ++ rest)) >>= _ = _
    rw [readUnary_of_reserved (word.resolve_left first)]
    rfl

theorem comparisonForm_fields {name name' : String} (named : Token.IsName name)
    (named' : Token.IsName name') (scope scope' : String) :
    ComparisonForm (Matcher.comparingTokens scope name scope' name')
      (.equal (.path scope [name]) (.path scope' [name'])) :=
  .equal (unaryForm_field named scope) (unaryForm_field named' scope')

theorem ofTokens_eq_error {tokens : List Token} {fault : Fault} (some : tokens ≠ [])
    (read : plain (readAnd tokens) = .error fault) : ofTokens tokens = .error fault := by
  have failed : plain (readOr tokens) = .error fault := by
    rw [plain_readOr, read]
    rfl
  rw [plain, Result.map_eq_error] at failed
  unfold ofTokens
  rw [failed]
  simp [some]
  rfl

end Expr
namespace Matcher

theorem parse_eq_error {text : String} {tokens : List Token} {fault : Expr.Fault}
    (read : Token.ofText text.toList = .ok tokens) (failed : Expr.ofTokens tokens = .error fault) :
    parse text = .error (.grammar fault) := by
  unfold parse
  rw [read]
  change (Expr.ofTokens tokens).mapError Fault.grammar = _
  rw [failed]
  rfl

theorem compile_eq_error [Regex.Engine] {model : Model} {fault : Fault}
    (failed : parse model.matcher = .error fault) : compile model = .error fault := by
  unfold compile
  rw [failed]
  rfl

/-- The matcher that compares a field of the request with itself, and a field of the rules likewise. -/
def bothText (field type name : String) : String :=
  comparing (fieldText "r" field) (fieldText "r" field) ++ " && " ++
    comparing (fieldText type name) (fieldText type name)

/-- The matcher that compares a field of the request with one of the rules. -/
def pairText (field type name : String) : String := comparing (fieldText "r" field) (fieldText type name)

def bothTokens (field type name : String) : List Token :=
  comparingTokens "r" field "r" field ++ .and :: comparingTokens type name type name

variable {field name type : String}

section
variable (identifier : Model.IsIdentifier field) (identifier' : Model.IsIdentifier name)
  (key : Model.IsKey 'p' type)
include identifier identifier' key

theorem named_tokens : (∀ token ∈ comparingTokens "r" field type name, token.Named) ∧
    ∀ token ∈ bothTokens field type name, token.Named := by
  have request : Token.IsName "r" := ⟨⟨'r', [], rfl, rfl, nofun⟩, by decide⟩
  have policy := Token.isName_of_isKey key
  have asked : ∀ token ∈ Token.ofField "r" field, token.Named := by
    simp only [Token.ofField, List.forall_mem_cons]
    exact ⟨request, trivial, Token.named_ofWord identifier, nofun⟩
  have stated : ∀ token ∈ Token.ofField type name, token.Named := by
    simp only [Token.ofField, List.forall_mem_cons]
    exact ⟨policy, trivial, Token.named_ofWord identifier', nofun⟩
  exact ⟨Expr.named_between trivial asked stated,
    Expr.named_between trivial (Expr.named_between trivial asked asked)
      (Expr.named_between trivial stated stated)⟩

theorem ofText_pair :
    Token.ofText (pairText field type name).toList = .ok (comparingTokens "r" field type name) := by
  have spells := spells_comparing "r" field type name (by simp) .nil
  simp only [List.append_nil] at spells
  exact Token.ofText_of_spells spells (named_tokens identifier identifier' key).1

theorem ofText_both :
    Token.ofText (bothText field type name).toList = .ok (bothTokens field type name) := by
  have last := spells_comparing type name type name (by simp) .nil
  simp only [List.append_nil] at last
  have spells := spells_comparing "r" field "r" field (by simp [Token.continuesWord])
    (Token.Spells.spaced .and last)
  apply Token.ofText_of_spells _ (named_tokens identifier identifier' key).2
  simpa [bothText, bothTokens, Token.spelling] using spells

/-- Fields whose names are not reserved are read. -/
theorem parse_fields (free : field ∉ Token.reserved) (free' : name ∉ Token.reserved) :
    parse (pairText field type name) = .ok (.equal (.path "r" [field]) (.path type [name])) ∧
    parse (bothText field type name) =
      .ok (.and (.equal (.path "r" [field]) (.path "r" [field]))
        (.equal (.path type [name]) (.path type [name]))) := by
  have named := Token.isName_of_isIdentifier identifier free
  have named' := Token.isName_of_isIdentifier identifier' free'
  have asked := Expr.comparisonForm_fields named named "r" "r"
  have stated := Expr.comparisonForm_fields named' named' type type
  constructor
  · exact parse_eq_ok.2 ⟨_, ofText_pair identifier identifier' key,
      .one (.one (Expr.comparisonForm_fields named named' "r" type))⟩
  · exact parse_eq_ok.2 ⟨_, ofText_both identifier identifier' key, .one (.more (.one asked) stated)⟩

/-- If one of the names is reserved, neither matcher is an expression. -/
theorem parse_reserved (word : field ∈ Token.reserved ∨ name ∈ Token.reserved) :
    parse (pairText field type name) = .error (.grammar .missingIdentifier) ∧
    parse (bothText field type name) = .error (.grammar .missingIdentifier) := by
  constructor
  · apply parse_eq_error (ofText_pair identifier identifier' key)
    apply Expr.ofTokens_eq_error (by simp [comparingTokens])
    have failed := Expr.readComparison_of_reserved identifier word "r" type []
    rw [List.append_nil] at failed
    rw [Expr.plain_readAnd, failed]
    rfl
  · apply parse_eq_error (ofText_both identifier identifier' key)
    apply Expr.ofTokens_eq_error (by simp [bothTokens, comparingTokens])
    rw [bothTokens]
    by_cases first : field ∈ Token.reserved
    · rw [Expr.plain_readAnd, Expr.readComparison_of_reserved identifier (.inl first)]
      rfl
    · -- The first comparison is read, and the second one fails.
      have named := Token.isName_of_isIdentifier identifier first
      have failed : Expr.Parsed.plain
          (Expr.readComparison (comparingTokens type name type name ++ [])) = _ :=
        Expr.readComparison_of_reserved identifier' (.inl (word.resolve_left first)) type type []
      rw [List.append_nil] at failed
      rw [Expr.and_complete (.one (Expr.comparisonForm_fields named named "r" "r"))
        (Expr.stops_cons (by decide) _), Expr.plain_readAndRest]
      simp only [failed]
      rfl

end

section
variable {model : Model} {names : List String}

theorem idxOf?_of_mem {names : List String} {name : String} (inside : name ∈ names) :
    names.idxOf? name = some (names.idxOf name) := by
  rw [List.idxOf?_eq_some_iff]
  refine ⟨List.idxOf_lt_length_of_mem inside, List.getElem_idxOf _, ?_⟩
  intro place before
  simpa using List.not_of_lt_findIdx before

/-- A field of the request is bound to its place. -/
theorem bindPath_request (asked : field ∈ model.request) (type : String) :
    bindPath model type "r" [field] = .ok (.requestField (model.request.idxOf field)) := by
  unfold bindPath
  simp only [requestScope, if_true, Model.requestIndex?, idxOf?_of_mem asked]

section
variable (keyed : model.Keyed) (asked : field ∈ model.request)
  (declared : model.policies.find? type = some names) (stated : name ∈ names)
include keyed declared stated

/-- A field of the rules is bound to its place. -/
theorem bindPath_rule : bindPath model type type [name] = .ok (.policyField (names.idxOf name)) := by
  unfold bindPath
  simp only [requestScope, if_neg (keyed.ne_request declared), if_true,
    Model.policyIndex?_of_find? declared, idxOf?_of_mem stated]

variable [Regex.Engine]
include asked

/-- Once it is read, a comparison of fields is for the rules of the type. -/
theorem compile_pair
    (read : parse model.matcher = .ok (.equal (.path "r" [field]) (.path type [name]))) :
    compile model = .ok
      ⟨.equal (.requestField (model.request.idxOf field)) (.policyField (names.idxOf name)), type⟩ := by
  have other := (keyed.ne_request declared).symm
  refine compile_eq_ok.2 ⟨_, read, ?_, ?_⟩
  · apply typeOf_eq_ok keyed declared (by simp [Expr.scopes])
    simp [Expr.scopes, other, List.eraseDups_cons]
  · simp only [bind, bindPath_request asked, bindPath_rule keyed declared stated]
    rfl

theorem compile_both
    (read : parse model.matcher = .ok (.and (.equal (.path "r" [field]) (.path "r" [field]))
      (.equal (.path type [name]) (.path type [name])))) :
    ∃ matcher, compile model = .ok matcher ∧ matcher.type = type := by
  have other := (keyed.ne_request declared).symm
  have selected : typeOf model (.and (.equal (.path "r" [field]) (.path "r" [field]))
      (.equal (.path type [name]) (.path type [name]))) = .ok type := by
    apply typeOf_eq_ok keyed declared (by simp [Expr.scopes])
    simp [Expr.scopes, other, List.eraseDups_cons]
  obtain ⟨root, bound⟩ : ∃ root, bind model type (.and (.equal (.path "r" [field]) (.path "r" [field]))
      (.equal (.path type [name]) (.path type [name]))) = .ok root := by
    simp only [bind, bindPath_request asked, bindPath_rule keyed declared stated]
    exact ⟨_, rfl⟩
  exact ⟨⟨root, type⟩, compile_eq_ok.2 ⟨_, read, selected, bound⟩, rfl⟩

end

variable [Regex.Engine]

/-- Bound fields are compared by the values at their places. -/
theorem eval_places {index place : Nat} {type : String} {scope : Scope}
    (asked : index < scope.request.length) (stated : place < scope.rule.length) :
    eval ⟨.equal (.requestField index) (.policyField place), type⟩ scope =
      .ok (scope.request[index]? == scope.rule[place]?) := by
  rw [eval_eq_value, List.getElem?_eq_getElem asked, List.getElem?_eq_getElem stated]
  have texts : (Value.text scope.request[index] == Value.text scope.rule[place]) =
      (some scope.request[index] == some scope.rule[place]) := by
    rw [Bool.eq_iff_iff, beq_iff_eq, beq_iff_eq, Value.text.injEq, Option.some.injEq]
  rw [← texts, value, Term.value, Term.value, Term.value, Term.fieldAt, Term.fieldAt,
    List.getElem?_eq_getElem asked, List.getElem?_eq_getElem stated]
  rfl

end

variable [Regex.Engine]

/-- Whatever stands in a definition is a name, so a matcher over its fields is refused just because of a
reserved word. -/
theorem compile_reserved {text : String} (read : Model.ofText text = .ok model)
    (asked : field ∈ model.request) (declared : model.policies.find? type = some names)
    (stated : name ∈ names) (word : field ∈ Token.reserved ∨ name ∈ Token.reserved) :
    compile { model with matcher := bothText field type name } = .error (.grammar .missingIdentifier) ∧
    compile { model with matcher := pairText field type name } = .error (.grammar .missingIdentifier) := by
  have formed := Model.wellFormed_ofText read
  obtain ⟨key, list⟩ := formed.policies type names declared
  obtain ⟨pair, both⟩ := parse_reserved (formed.request.identifiers field asked)
    (list.identifiers name stated) key word
  exact ⟨compile_eq_error both, compile_eq_error pair⟩

/-- A field of the request and one of a policy type are at hand in the matcher of a model: both can be
mentioned, the matcher is for the rules of the type, and the fields stand for the values at their places. -/
def AtHand (model : Model) (field type name : String) (names : List String) : Prop :=
  (∃ matcher, compile { model with matcher := bothText field type name } = .ok matcher ∧
    matcher.type = type) ∧
  ∃ matcher, compile { model with matcher := pairText field type name } = .ok matcher ∧
    matcher.type = type ∧
    ∀ scope : Scope, scope.request.length = model.request.length → scope.rule.length = names.length →
      matcher.eval scope =
        .ok (scope.request[model.request.idxOf field]? == scope.rule[names.idxOf name]?)

/-- A model that has been read from a text has each field of its requests and of a policy type at hand in
its matcher, unless the name is one of the words that are reserved there. A matcher that mentions a field
of a reserved name is refused. -/
theorem field_at_hand {text : String} {model : Model} (read : Model.ofText text = .ok model)
    {field : String} (asked : field ∈ model.request) {type : String} {names : List String}
    (declared : model.policies.find? type = some names) {name : String} (stated : name ∈ names) :
    (field ∉ Token.reserved ∧ name ∉ Token.reserved → AtHand model field type name names) ∧
    (field ∈ Token.reserved ∨ name ∈ Token.reserved →
      compile { model with matcher := bothText field type name } =
          .error (.grammar .missingIdentifier) ∧
        compile { model with matcher := pairText field type name } =
          .error (.grammar .missingIdentifier)) := by
  constructor
  · rintro ⟨free, free'⟩
    have formed := Model.wellFormed_ofText read
    have keyed := Model.keyed_ofText read
    obtain ⟨key, list⟩ := formed.policies type names declared
    obtain ⟨pair, both⟩ := parse_fields (formed.request.identifiers field asked)
      (list.identifiers name stated) key free free'
    -- The keys of the types are the same under another matcher.
    have keyed' (matcher : String) : Model.Keyed { model with matcher } :=
      ⟨keyed.policy, keyed.role, keyed.fielded⟩
    refine ⟨compile_both (keyed' (bothText field type name)) asked declared stated both, _,
      compile_pair (keyed' (pairText field type name)) asked declared stated pair, rfl, ?_⟩
    intro scope long long'
    apply eval_places
    · rw [long]
      exact List.idxOf_lt_length_of_mem asked
    · rw [long']
      exact List.idxOf_lt_length_of_mem stated
  · exact compile_reserved read asked declared stated

end Matcher

namespace Turnstile

/-- The text of a model that has a reserved word for a field of its requests: who passes, and whether in
or out. -/
def text : String := "r = who, in\np = who\ne = some(where (p.eft == allow))\nm = r.who == p.who"

/-- The model itself. -/
def model : Model where
  request := ["who", "in"]
  policies := .ofList [("p", ["who"])]
  roles := .ofList []
  effect := "some(where (p.eft == allow))"
  matcher := "r.who == p.who"

theorem ofText_text : Model.ofText text = .ok model := by cbv

end Turnstile

namespace Matcher
open Turnstile

/-- Who passes can be compared with a rule, and whether in or out cannot. -/
theorem field_at_hand_of_turnstile :
    (Model.ofText text = .ok model ∧ "who" ∈ model.request ∧ "in" ∈ model.request ∧
      model.policies.find? "p" = some ["who"]) ∧
    AtHand model "who" "p" "who" ["who"] ∧
    compile { model with matcher := bothText "in" "p" "who" } = .error (.grammar .missingIdentifier) ∧
    compile { model with matcher := pairText "in" "p" "who" } = .error (.grammar .missingIdentifier) := by
  have who : "who" ∈ model.request := by decide
  have side : "in" ∈ model.request := by decide
  have declared : model.policies.find? "p" = some ["who"] := rfl
  have stated : "who" ∈ ["who"] := by decide
  have free := (field_at_hand ofText_text who declared stated).1
  have refused := (field_at_hand ofText_text side declared stated).2
  exact ⟨⟨ofText_text, who, side, declared⟩, free (by decide), refused (by decide)⟩

/-- Not every field is at hand: whether somebody goes in or out cannot be mentioned. -/
theorem not_at_hand_of_reserved :
    ¬ ∀ (text : String) (model : Model), Model.ofText text = .ok model →
      ∀ field ∈ model.request, ∀ (type : String) (names : List String),
        model.policies.find? type = some names → ∀ name ∈ names, AtHand model field type name names := by
  intro every
  have side : "in" ∈ model.request := by decide
  have declared : model.policies.find? "p" = some ["who"] := rfl
  have stated : "who" ∈ ["who"] := by decide
  obtain ⟨⟨matcher, compiled, -⟩, -⟩ := every text model ofText_text "in" side "p" _ declared "who" stated
  have refused := compile_reserved ofText_text side declared stated (.inl (by decide))
  rw [refused.1] at compiled
  cases compiled

end Matcher
end AccessControl
