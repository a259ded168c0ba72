import AccessControl.Proofs.Matcher.Parsing
import AccessControl.Proofs.Matcher.Spelling
/-!
Printing of expressions. Every tree has tokens that derive it, with parentheses only around what holds
together less tightly than its place in the grammar asks for. However these tokens are spelled, the text
is parsed as the tree again.
-/
namespace AccessControl.Expr

/-- How tightly an expression holds together: the number of the lowest rule of the grammar that derives
it without parentheses, from alternatives down to literals, paths and calls. -/
def level : Expr → Nat
  | .or _ _ => 1
  | .and _ _ => 2
  | .equal _ _ | .unequal _ _ | .within _ _ => 3
  | .not _ => 4
  | .literal _ | .constant _ | .path _ _ | .call _ _ => 5

/-- The tokens of an expression in a place of some level. -/
def placed (place : Nat) (expr : Expr) (tokens : List Token) : List Token :=
  if expr.level < place then .leftParen :: (tokens ++ [.rightParen]) else tokens

mutual

/-- The tokens of an expression, with no more parentheses than needed. -/
def tokens : Expr → List Token
  | .literal value => [.literal value]
  | .constant true => [.truth]
  | .constant false => [.falsity]
  | .path first more => .identifier first :: segmentTokens more
  | .call name arguments => .identifier name :: .leftParen :: (listTokens arguments ++ [.rightParen])
  | .equal left right => placed 4 left (tokens left) ++ .equal :: placed 4 right (tokens right)
  | .unequal left right => placed 4 left (tokens left) ++ .unequal :: placed 4 right (tokens right)
  | .and left right => placed 2 left (tokens left) ++ .and :: placed 3 right (tokens right)
  | .or left right => placed 1 left (tokens left) ++ .or :: placed 2 right (tokens right)
  | .not operand => .not :: placed 4 operand (tokens operand)
  | .within element items =>
    placed 4 element (tokens element) ++ .within :: .leftParen :: (listTokens items ++ [.rightParen])

/-- The tokens of some expressions, with commas between them. -/
def listTokens : List Expr → List Token
  | [] => []
  | [item] => tokens item
  | item :: next :: rest => tokens item ++ .comma :: listTokens (next :: rest)

end

mutual

/-- Every name in an expression is a word that is not reserved. -/
def WellNamed : Expr → Prop
  | .literal _ | .constant _ => True
  | .path first more => Token.IsName first ∧ ∀ segment ∈ more, Token.IsName segment
  | .call name arguments => Token.IsName name ∧ AllWellNamed arguments
  | .equal left right | .unequal left right | .and left right | .or left right =>
    WellNamed left ∧ WellNamed right
  | .not operand => WellNamed operand
  | .within element items => WellNamed element ∧ AllWellNamed items

def AllWellNamed : List Expr → Prop
  | [] => True
  | item :: rest => WellNamed item ∧ AllWellNamed rest

end

/-- The rules of the grammar by their levels. -/
def Form : Nat → List Token → Expr → Prop
  | 0 | 1 => OrForm
  | 2 => AndForm
  | 3 => ComparisonForm
  | 4 => UnaryForm
  | _ => PrimaryForm

namespace Form
variable {front : List Token} {expr : Expr}

theorem loosen : ∀ {rule : Nat}, Form (rule + 1) front expr → Form rule front expr
  | 0, form => form
  | 1, form => .one form
  | 2, form => .one form
  | 3, form => .one form
  | 4, form => .primary form
  | _ + 5, form => form

theorem mono {low high : Nat} (lower : low ≤ high) (form : Form high front expr) :
    Form low front expr := by
  induction lower with
  | refl => exact form
  | step _ ih => exact ih form.loosen

theorem whole (form : Form expr.level front expr) : OrForm front expr := by
  have bound : 1 ≤ expr.level := by
    unfold level
    split <;> decide
  exact form.mono bound

theorem placed (form : Form expr.level front expr) {place : Nat} (inside : place ≤ 5) :
    Form place (placed place expr front) expr := by
  unfold Expr.placed
  by_cases loose : expr.level < place
  · -- A group can stand in any place.
    rw [if_pos loose]
    have group : Form 5 (.leftParen :: (front ++ [.rightParen])) expr := PrimaryForm.grouped form.whole
    exact group.mono inside
  · rw [if_neg loose]
    exact form.mono (Nat.le_of_not_lt loose)

end Form

theorem list_of_items {tokens : List Token} {items : List Expr} (none : items = [] → tokens = [])
    (some : items ≠ [] → ItemsForm tokens items) : ListForm tokens items := by
  by_cases empty : items = []
  · rw [empty, none empty]
    exact .empty
  · exact .items (some empty)

mutual

/-- The tokens of an expression derive it. -/
theorem form_tokens (expr : Expr) : Form expr.level (tokens expr) expr := by
  cases expr with
  | literal value => exact PrimaryForm.literal value
  | constant value =>
    cases value with
    | true => exact PrimaryForm.truth
    | false => exact PrimaryForm.falsity
  | path first more => exact PrimaryForm.path first more
  | call name arguments =>
    have list := list_of_items (fun empty => by rw [empty]; rfl) (items_form_tokens arguments)
    exact PrimaryForm.call name list
  | equal left right =>
    have first : Form 4 _ left := (form_tokens left).placed (by decide)
    have second : Form 4 _ right := (form_tokens right).placed (by decide)
    exact ComparisonForm.equal first second
  | unequal left right =>
    have first : Form 4 _ left := (form_tokens left).placed (by decide)
    have second : Form 4 _ right := (form_tokens right).placed (by decide)
    exact ComparisonForm.unequal first second
  | and left right =>
    have first : Form 2 _ left := (form_tokens left).placed (by decide)
    have second : Form 3 _ right := (form_tokens right).placed (by decide)
    exact AndForm.more first second
  | or left right =>
    have first : Form 1 _ left := (form_tokens left).placed (by decide)
    have second : Form 2 _ right := (form_tokens right).placed (by decide)
    exact OrForm.more first second
  | not operand =>
    have form : Form 4 _ operand := (form_tokens operand).placed (by decide)
    exact UnaryForm.not form
  | within element items =>
    have first : Form 4 _ element := (form_tokens element).placed (by decide)
    have list := list_of_items (fun empty => by rw [empty]; rfl) (items_form_tokens items)
    exact ComparisonForm.within first list

theorem items_form_tokens (items : List Expr) (some : items ≠ []) :
    ItemsForm (listTokens items) items := by
  cases items with
  | nil => exact absurd rfl some
  | cons item rest =>
    have first := (form_tokens item).whole
    have later := items_form_tokens rest
    cases rest with
    | nil => exact .one first
    | cons next rest => exact .more first (later (List.cons_ne_nil next rest))

end

theorem named_segmentTokens {more : List String} (named : ∀ segment ∈ more, Token.IsName segment) :
    ∀ token ∈ segmentTokens more, token.Named := by
  intro token inside
  obtain ⟨segment, listed, one⟩ := List.mem_flatMap.1 inside
  rcases List.mem_cons.1 one with rfl | other
  · trivial
  · rw [List.mem_singleton.1 other]
    exact named segment listed

theorem named_closed {tokens : List Token} (named : ∀ token ∈ tokens, token.Named) :
    ∀ token ∈ Token.leftParen :: (tokens ++ [.rightParen]), token.Named := by
  simp only [List.forall_mem_cons, List.forall_mem_append]
  exact ⟨trivial, named, trivial, nofun⟩

theorem named_placed {tokens : List Token} (named : ∀ token ∈ tokens, token.Named) (place : Nat)
    (expr : Expr) : ∀ token ∈ placed place expr tokens, token.Named := by
  unfold placed
  by_cases loose : expr.level < place
  · rw [if_pos loose]
    exact named_closed named
  · rw [if_neg loose]
    exact named

theorem named_between {front back : List Token} {sign : Token} (sound : sign.Named)
    (first : ∀ token ∈ front, token.Named) (second : ∀ token ∈ back, token.Named) :
    ∀ token ∈ front ++ sign :: back, token.Named := by
  simp only [List.forall_mem_append, List.forall_mem_cons]
  exact ⟨first, sound, second⟩

mutual

theorem named_tokens (expr : Expr) (named : WellNamed expr) : ∀ token ∈ tokens expr, token.Named := by
  cases expr with
  | literal value => exact List.forall_mem_singleton.2 trivial
  | constant value =>
    cases value with
    | true => exact List.forall_mem_singleton.2 trivial
    | false => exact List.forall_mem_singleton.2 trivial
  | path first more => exact List.forall_mem_cons.2 ⟨named.1, named_segmentTokens named.2⟩
  | call name arguments =>
    exact List.forall_mem_cons.2 ⟨named.1, named_closed (named_listTokens arguments named.2)⟩
  | equal left right =>
    have first := named_placed (named_tokens left named.1) 4 left
    have second := named_placed (named_tokens right named.2) 4 right
    exact named_between trivial first second
  | unequal left right =>
    have first := named_placed (named_tokens left named.1) 4 left
    have second := named_placed (named_tokens right named.2) 4 right
    exact named_between trivial first second
  | and left right =>
    have first := named_placed (named_tokens left named.1) 2 left
    have second := named_placed (named_tokens right named.2) 3 right
    exact named_between trivial first second
  | or left right =>
    have first := named_placed (named_tokens left named.1) 1 left
    have second := named_placed (named_tokens right named.2) 2 right
    exact named_between trivial first second
  | not operand =>
    have inner := named_placed (named_tokens operand named) 4 operand
    exact List.forall_mem_cons.2 ⟨trivial, inner⟩
  | within element items =>
    have first := named_placed (named_tokens element named.1) 4 element
    have list := named_closed (named_listTokens items named.2)
    exact named_between trivial first list

theorem named_listTokens (items : List Expr) (named : AllWellNamed items) :
    ∀ token ∈ listTokens items, token.Named := by
  cases items with
  | nil => exact nofun
  | cons item rest =>
    have first := named_tokens item named.1
    have later := named_listTokens rest named.2
    cases rest with
    | nil => exact first
    | cons next rest => exact named_between trivial first later

end

end AccessControl.Expr

namespace AccessControl.Matcher

theorem parse_eq_ok {text : String} {expr : Expr} :
    parse text = .ok expr ↔
      ∃ tokens, Token.ofText text.toList = .ok tokens ∧ Expr.OrForm tokens expr := by
  unfold parse
  rw [Result.bind_eq_ok]
  constructor
  · rintro ⟨tokens, read, formed⟩
    refine ⟨tokens, Result.mapError_eq_ok.1 read, ?_⟩
    exact Expr.ofTokens_eq_ok.1 (Result.mapError_eq_ok.1 formed)
  · rintro ⟨tokens, read, form⟩
    refine ⟨tokens, Result.mapError_eq_ok.2 read, ?_⟩
    exact Result.mapError_eq_ok.2 (Expr.ofTokens_eq_ok.2 form)

/-- A text is an expression just when its tokens derive from the grammar, and it is the tree of that
derivation. Therefore every tree whose names can be written down is what any text is parsed as that
spells its tokens, and there are such texts. -/
theorem parse_grammar :
    (∀ (text : String) (expr : Expr), parse text = .ok expr ↔
      ∃ tokens, Token.ofText text.toList = .ok tokens ∧ Expr.OrForm tokens expr) ∧
    ∀ expr : Expr, expr.WellNamed →
      (∀ text : String, Token.Spells expr.tokens text.toList → parse text = .ok expr) ∧
        ∃ text : String, Token.Spells expr.tokens text.toList := by
  refine ⟨fun text expr => parse_eq_ok, ?_⟩
  intro expr named
  constructor
  · intro text spells
    apply parse_eq_ok.2
    refine ⟨expr.tokens, ?_, (Expr.form_tokens expr).whole⟩
    exact Token.ofText_of_spells spells (Expr.named_tokens expr named)
  · obtain ⟨chars, spells⟩ := Token.exists_spells expr.tokens
    refine ⟨String.ofList chars, ?_⟩
    rw [String.toList_ofList]
    exact spells

/-- A comparison that needs parentheses, and a literal that holds its own quote. -/
theorem parse_grammar_of_group :
    parse "!('\\''==a)" = .ok (.not (.equal (.literal "'") (.path "a" []))) := by
  have single : '\'' = '"' ∨ '\'' = '\'' := .inr rfl
  have name : Token.IsName "a" := ⟨⟨'a', [], rfl, rfl, nofun⟩, by decide⟩
  have closing : Token.Spells [.rightParen] [')'] := .token single trivial .nil
  have path : Token.Spells [.identifier "a", .rightParen] ['a', ')'] := by
    refine .token single ?_ closing
    intro c next
    cases next
    rfl
  have sign : Token.Spells [.equal, .identifier "a", .rightParen] ['=', '=', 'a', ')'] :=
    .token single trivial path
  have quoted : Token.Spells [.literal "'", .equal, .identifier "a", .rightParen]
      ['\'', '\\', '\'', '\'', '=', '=', 'a', ')'] := .token single trivial sign
  have opening : Token.Spells [.leftParen, .literal "'", .equal, .identifier "a", .rightParen]
      ['(', '\'', '\\', '\'', '\'', '=', '=', 'a', ')'] := .token single trivial quoted
  have whole : Token.Spells [.not, .leftParen, .literal "'", .equal, .identifier "a", .rightParen]
      ['!', '(', '\'', '\\', '\'', '\'', '=', '=', 'a', ')'] := by
    refine .token single ?_ opening
    intro c next
    cases next
    decide
  have named : (Expr.not (.equal (.literal "'") (.path "a" []))).WellNamed := ⟨trivial, name, nofun⟩
  exact (parse_grammar.2 _ named).1 _ whole

end AccessControl.Matcher
