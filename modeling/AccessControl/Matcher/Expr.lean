import AccessControl.Matcher.Token
/-!
Matcher expressions and their grammar:

    or      = and ("||" and)*
    and     = comparison ("&&" comparison)*
    comparison = unary (("==" | "!=") unary | "in" "(" list ")")?
    unary   = "!" unary | primary
    primary = literal | "true" | "false" | word "(" list ")" | word ("." word)* | "(" or ")"
    list    = nothing, or expressions with commas between them

Both connectives group to the left. Every reading step returns the tokens that it left over together
with a proof that they are fewer, which is why reading ends.
-/
namespace AccessControl

/-- A matcher expression. A path has at least one segment. -/
inductive Expr where
  | literal (value : String)
  | constant (value : Bool)
  | path (first : String) (more : List String)
  | call (name : String) (arguments : List Expr)
  | equal (left right : Expr)
  | unequal (left right : Expr)
  | and (left right : Expr)
  | or (left right : Expr)
  | not (operand : Expr)
  | within (element : Expr) (items : List Expr)
deriving Repr, Inhabited, BEq

namespace Expr

inductive Fault where
  | empty
  | missingListStart
  | missingClosing
  | missingIdentifier
  | missingSeparator
  | unexpected (token : Option Token)
  | trailing (token : Token)
deriving DecidableEq, Repr

/-- What was read from the front of some tokens, and the fewer than `limit` tokens left over. -/
structure Parsed (α : Type) (limit : Nat) where
  value : α
  rest : List Token
  fewer : rest.length < limit

namespace Parsed
variable {α β : Type} {limit : Nat}

def widen {limit' : Nat} (parsed : Parsed α limit) (longer : limit ≤ limit') : Parsed α limit' :=
  ⟨parsed.value, parsed.rest, Nat.lt_of_lt_of_le parsed.fewer longer⟩

def map (change : α → β) (parsed : Parsed α limit) : Parsed β limit :=
  ⟨change parsed.value, parsed.rest, parsed.fewer⟩

end Parsed

/-- The further segments of a path. -/
def readSegments : (tokens : List Token) → Except Fault (Parsed (List String) (tokens.length + 1))
  | .dot :: .identifier segment :: rest => do
    let later ← readSegments rest
    return (later.map (segment :: ·)).widen (by simp only [List.length_cons]; omega)
  | .dot :: _ => .error .missingIdentifier
  | tokens => .ok ⟨[], tokens, Nat.lt_succ_self _⟩

mutual

def readOr (tokens : List Token) : Except Fault (Parsed Expr tokens.length) := do
  let first ← readAnd tokens
  let whole ← readOrRest first.value first.rest
  return whole.widen first.fewer
termination_by (tokens.length, 5)
decreasing_by
  · exact Prod.Lex.right _ (by omega)
  · exact Prod.Lex.left _ _ first.fewer

/-- Reads the further alternatives after `left`. -/
def readOrRest (left : Expr) (tokens : List Token) : Except Fault (Parsed Expr (tokens.length + 1)) :=
  match tokens with
  | .or :: rest => do
    let right ← readAnd rest
    let whole ← readOrRest (.or left right.value) right.rest
    return whole.widen (by have := right.fewer; simp only [List.length_cons]; omega)
  | tokens => .ok ⟨left, tokens, Nat.lt_succ_self _⟩
termination_by (tokens.length, 5)
decreasing_by
  · exact Prod.Lex.left _ _ (by simp)
  · exact Prod.Lex.left _ _ (by have := right.fewer; simp only [List.length_cons]; omega)

def readAnd (tokens : List Token) : Except Fault (Parsed Expr tokens.length) := do
  let first ← readComparison tokens
  let whole ← readAndRest first.value first.rest
  return whole.widen first.fewer
termination_by (tokens.length, 4)
decreasing_by
  · exact Prod.Lex.right _ (by omega)
  · exact Prod.Lex.left _ _ first.fewer

/-- Reads the further conjuncts after `left`. -/
def readAndRest (left : Expr) (tokens : List Token) : Except Fault (Parsed Expr (tokens.length + 1)) :=
  match tokens with
  | .and :: rest => do
    let right ← readComparison rest
    let whole ← readAndRest (.and left right.value) right.rest
    return whole.widen (by have := right.fewer; simp only [List.length_cons]; omega)
  | tokens => .ok ⟨left, tokens, Nat.lt_succ_self _⟩
termination_by (tokens.length, 4)
decreasing_by
  · exact Prod.Lex.left _ _ (by simp)
  · exact Prod.Lex.left _ _ (by have := right.fewer; simp only [List.length_cons]; omega)

/-- Reads a comparison, a membership test or a single operand. -/
def readComparison (tokens : List Token) : Except Fault (Parsed Expr tokens.length) := do
  let left ← readUnary tokens
  match tail : left.rest with
  | .equal :: rest =>
    let right ← readUnary rest
    return (right.map (.equal left.value)).widen
      (by have := left.fewer; simp only [tail, List.length_cons] at this; omega)
  | .unequal :: rest =>
    let right ← readUnary rest
    return (right.map (.unequal left.value)).widen
      (by have := left.fewer; simp only [tail, List.length_cons] at this; omega)
  | .within :: .leftParen :: rest =>
    let items ← readList rest
    return (items.map (.within left.value)).widen
      (by have := left.fewer; simp only [tail, List.length_cons] at this; omega)
  | .within :: _ => .error .missingListStart
  | _ => .ok left
termination_by (tokens.length, 3)
decreasing_by
  · exact Prod.Lex.right _ (by omega)
  all_goals
    exact Prod.Lex.left _ _
      (by have := left.fewer; simp only [tail, List.length_cons] at this; omega)

/-- Reads negations and what they negate. -/
def readUnary (tokens : List Token) : Except Fault (Parsed Expr tokens.length) :=
  match tokens with
  | .not :: rest => do
    let operand ← readUnary rest
    return (operand.map .not).widen (by simp)
  | tokens => readPrimary tokens
termination_by (tokens.length, 2)
decreasing_by
  · exact Prod.Lex.left _ _ (by simp)
  · exact Prod.Lex.right _ (by omega)

/-- Reads a literal, a constant, a call, a path or an expression in parentheses. -/
def readPrimary (tokens : List Token) : Except Fault (Parsed Expr tokens.length) :=
  match tokens with
  | .literal value :: rest => .ok ⟨.literal value, rest, by simp⟩
  | .truth :: rest => .ok ⟨.constant true, rest, by simp⟩
  | .falsity :: rest => .ok ⟨.constant false, rest, by simp⟩
  | .identifier name :: .leftParen :: rest => do
    let arguments ← readList rest
    return (arguments.map (.call name)).widen (by simp only [List.length_cons]; omega)
  | .identifier name :: rest => do
    let segments ← readSegments rest
    return (segments.map (.path name)).widen (by simp)
  | .leftParen :: rest => do
    let inner ← readOr rest
    match tail : inner.rest with
    | .rightParen :: after =>
      return ⟨inner.value, after,
        by have := inner.fewer; simp only [tail, List.length_cons] at this ⊢; omega⟩
    | _ => .error .missingClosing
  | [] => .error (.unexpected none)
  | token :: _ => .error (.unexpected (some token))
termination_by (tokens.length, 1)
decreasing_by
  · exact Prod.Lex.left _ _ (by simp only [List.length_cons]; omega)
  · exact Prod.Lex.left _ _ (by simp)

/-- Reads a list whose opening parenthesis has been read, up to its closing one. -/
def readList (tokens : List Token) : Except Fault (Parsed (List Expr) (tokens.length + 1)) :=
  match tokens with
  | .rightParen :: rest => .ok ⟨[], rest, by simp only [List.length_cons]; omega⟩
  | tokens => do
    let items ← readItems tokens
    return items.widen (by omega)
termination_by (tokens.length, 7)
decreasing_by exact Prod.Lex.right _ (by omega)

/-- Reads at least one item and the closing parenthesis. -/
def readItems (tokens : List Token) : Except Fault (Parsed (List Expr) tokens.length) := do
  let first ← readOr tokens
  match tail : first.rest with
  | .comma :: rest =>
    let later ← readItems rest
    return (later.map (first.value :: ·)).widen
      (by have := first.fewer; simp only [tail, List.length_cons] at this; omega)
  | .rightParen :: rest =>
    return ⟨[first.value], rest,
      by have := first.fewer; simp only [tail, List.length_cons] at this; omega⟩
  | _ => .error .missingSeparator
termination_by (tokens.length, 6)
decreasing_by
  · exact Prod.Lex.right _ (by omega)
  · exact Prod.Lex.left _ _
      (by have := first.fewer; simp only [tail, List.length_cons] at this; omega)

end

def ofTokens (tokens : List Token) : Except Fault Expr := do
  if tokens.isEmpty then .error .empty
  let parsed ← readOr tokens
  match parsed.rest with
  | [] => .ok parsed.value
  | token :: _ => .error (.trailing token)

end Expr
end AccessControl
