import AccessControl.Matcher
/-!
The reader of expressions without its bounds. Every reading step carries a proof that it leaves fewer
tokens over; what it reads, and what it leaves over, obeys plain equations that need no such proof.
-/
namespace AccessControl.Expr

namespace Parsed
variable {α β : Type} {limit limit' : Nat}

/-- A reading without its bound. -/
def plain (result : Except Fault (Parsed α limit)) : Except Fault (α × List Token) :=
  result.map fun parsed => (parsed.value, parsed.rest)

theorem plain_bind {result : Except Fault (Parsed α limit)}
    {next : Parsed α limit → Except Fault (Parsed β limit')}
    {following : α × List Token → Except Fault (β × List Token)}
    (same : ∀ parsed, plain (next parsed) = following (parsed.value, parsed.rest)) :
    plain (result >>= next) = plain result >>= following := by
  cases result with
  | error fault => rfl
  | ok parsed => exact same parsed

theorem plain_widen (result : Except Fault (Parsed α limit)) (longer : limit ≤ limit') :
    plain (result >>= fun parsed => pure (parsed.widen longer)) = plain result := by
  cases result with
  | error fault => rfl
  | ok parsed => rfl

theorem plain_map {result : Except Fault (Parsed α limit)} (change : α → β)
    (longer : limit ≤ limit') :
    plain (result >>= fun parsed => pure ((parsed.map change).widen longer)) =
      plain result >>= fun read => pure (change read.1, read.2) := by
  cases result with
  | error fault => rfl
  | ok parsed => rfl

end Parsed
open Parsed

theorem plain_readSegments (tokens : List Token) :
    plain (readSegments tokens) =
      match tokens with
      | .dot :: .identifier segment :: rest =>
        plain (readSegments rest) >>= fun later => pure (segment :: later.1, later.2)
      | .dot :: _ => .error .missingIdentifier
      | tokens => .ok ([], tokens) := by
  rw [readSegments.eq_def]
  cases tokens with
  | nil => rfl
  | cons token rest =>
    cases token with
    | dot =>
      cases rest with
      | nil => rfl
      | cons next after =>
        cases next with
        | identifier segment => exact plain_map _ _
        | _ => rfl
    | _ => rfl

theorem plain_readOr (tokens : List Token) :
    plain (readOr tokens) =
      plain (readAnd tokens) >>= fun first => plain (readOrRest first.1 first.2) := by
  rw [readOr]
  apply plain_bind
  intro first
  exact plain_widen _ _

theorem plain_readOrRest (left : Expr) (tokens : List Token) :
    plain (readOrRest left tokens) =
      match tokens with
      | .or :: rest =>
        plain (readAnd rest) >>= fun right => plain (readOrRest (.or left right.1) right.2)
      | tokens => .ok (left, tokens) := by
  rw [readOrRest.eq_def]
  cases tokens with
  | nil => rfl
  | cons token rest =>
    cases token with
    | or =>
      apply plain_bind
      intro right
      exact plain_widen _ _
    | _ => rfl

theorem plain_readAnd (tokens : List Token) :
    plain (readAnd tokens) =
      plain (readComparison tokens) >>= fun first => plain (readAndRest first.1 first.2) := by
  rw [readAnd]
  apply plain_bind
  intro first
  exact plain_widen _ _

theorem plain_readAndRest (left : Expr) (tokens : List Token) :
    plain (readAndRest left tokens) =
      match tokens with
      | .and :: rest =>
        plain (readComparison rest) >>= fun right => plain (readAndRest (.and left right.1) right.2)
      | tokens => .ok (left, tokens) := by
  rw [readAndRest.eq_def]
  cases tokens with
  | nil => rfl
  | cons token rest =>
    cases token with
    | and =>
      apply plain_bind
      intro right
      exact plain_widen _ _
    | _ => rfl

theorem plain_readComparison (tokens : List Token) :
    plain (readComparison tokens) =
      plain (readUnary tokens) >>= fun left =>
        match left.2 with
        | .equal :: rest => plain (readUnary rest) >>= fun right => pure (.equal left.1 right.1, right.2)
        | .unequal :: rest =>
          plain (readUnary rest) >>= fun right => pure (.unequal left.1 right.1, right.2)
        | .within :: .leftParen :: rest =>
          plain (readList rest) >>= fun items => pure (.within left.1 items.1, items.2)
        | .within :: _ => .error .missingListStart
        | rest => .ok (left.1, rest) := by
  rw [readComparison]
  apply plain_bind
  rintro ⟨left, rest, fewer⟩
  cases rest with
  | nil => rfl
  | cons token after =>
    cases token with
    | equal => exact plain_map _ _
    | unequal => exact plain_map _ _
    | within =>
      cases after with
      | nil => rfl
      | cons next items =>
        cases next with
        | leftParen => exact plain_map _ _
        | _ => rfl
    | _ => rfl

theorem plain_readUnary (tokens : List Token) :
    plain (readUnary tokens) =
      match tokens with
      | .not :: rest => plain (readUnary rest) >>= fun operand => pure (.not operand.1, operand.2)
      | tokens => plain (readPrimary tokens) := by
  rw [readUnary.eq_def]
  cases tokens with
  | nil => rfl
  | cons token rest =>
    cases token with
    | not => exact plain_map _ _
    | _ => rfl

theorem plain_readPrimary (tokens : List Token) :
    plain (readPrimary tokens) =
      match tokens with
      | .literal value :: rest => .ok (.literal value, rest)
      | .truth :: rest => .ok (.constant true, rest)
      | .falsity :: rest => .ok (.constant false, rest)
      | .identifier name :: .leftParen :: rest =>
        plain (readList rest) >>= fun arguments => pure (.call name arguments.1, arguments.2)
      | .identifier name :: rest =>
        plain (readSegments rest) >>= fun segments => pure (.path name segments.1, segments.2)
      | .leftParen :: rest =>
        plain (readOr rest) >>= fun inner =>
          match inner.2 with
          | .rightParen :: after => .ok (inner.1, after)
          | _ => .error .missingClosing
      | [] => .error (.unexpected none)
      | token :: _ => .error (.unexpected (some token)) := by
  rw [readPrimary.eq_def]
  cases tokens with
  | nil => rfl
  | cons token rest =>
    cases token with
    | identifier name =>
      cases rest with
      | nil => exact plain_map _ _
      | cons next after =>
        cases next with
        | leftParen => exact plain_map _ _
        | _ => exact plain_map _ _
    | leftParen =>
      apply plain_bind
      rintro ⟨inner, left, fewer⟩
      cases left with
      | nil => rfl
      | cons next after => cases next <;> rfl
    | _ => rfl

theorem plain_readList (tokens : List Token) :
    plain (readList tokens) =
      match tokens with
      | .rightParen :: rest => .ok ([], rest)
      | tokens => plain (readItems tokens) := by
  rw [readList.eq_def]
  cases tokens with
  | nil => exact plain_widen _ _
  | cons token rest =>
    cases token with
    | rightParen => rfl
    | _ => exact plain_widen _ _

theorem plain_readItems (tokens : List Token) :
    plain (readItems tokens) =
      plain (readOr tokens) >>= fun first =>
        match first.2 with
        | .comma :: rest => plain (readItems rest) >>= fun later => pure (first.1 :: later.1, later.2)
        | .rightParen :: rest => .ok ([first.1], rest)
        | _ => .error .missingSeparator := by
  rw [readItems]
  apply plain_bind
  rintro ⟨first, rest, fewer⟩
  cases rest with
  | nil => rfl
  | cons token after =>
    cases token with
    | comma => exact plain_map _ _
    | _ => rfl

end AccessControl.Expr
