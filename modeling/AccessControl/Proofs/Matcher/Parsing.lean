import AccessControl.Proofs.Matcher.Grammar
import AccessControl.Proofs.Matcher.Reading
import AccessControl.Proofs.Result
/-!
The reader against the grammar. What is read from the front of some tokens has been derived from just
those tokens that are gone; and what a derivation puts at the front is read, provided that what comes
after it does not go on with it.
-/
namespace AccessControl.Expr
open Parsed

theorem fewer_of_plain {α : Type} {limit : Nat} {result : Except Fault (Parsed α limit)} {value : α}
    {rest : List Token} (read : plain result = .ok (value, rest)) : rest.length < limit := by
  obtain ⟨parsed, -, same⟩ := Result.map_eq_ok.1 read
  cases same
  exact parsed.fewer

theorem segments_sound {tokens rest : List Token} {more : List String}
    (read : plain (readSegments tokens) = .ok (more, rest)) : tokens = segmentTokens more ++ rest := by
  rw [plain_readSegments] at read
  split at read
  next segment after =>
    obtain ⟨⟨later, left⟩, inner, same⟩ := Result.bind_eq_ok.1 read
    cases same
    have whole := segments_sound inner
    rw [whole]
    rfl
  next => cases read
  next =>
    cases read
    rfl
termination_by tokens.length

-- The second part of each measure follows the grammar downwards: a rule may call those below it on
-- the same tokens, and the others only on fewer.
mutual

theorem or_sound {tokens rest : List Token} {expr : Expr}
    (read : plain (readOr tokens) = .ok (expr, rest)) :
    ∃ front, tokens = front ++ rest ∧ OrForm front expr := by
  rw [plain_readOr] at read
  obtain ⟨⟨first, middle⟩, one, later⟩ := Result.bind_eq_ok.1 read
  change plain (readOrRest first middle) = _ at later
  have fewer := fewer_of_plain one
  obtain ⟨front, split, form⟩ := and_sound one
  obtain ⟨back, whole, formed⟩ := orRest_sound (.one form) later
  refine ⟨front ++ back, ?_, formed⟩
  rw [split, whole, List.append_assoc]
termination_by (tokens.length, 5)

theorem orRest_sound {seen tokens rest : List Token} {left expr : Expr} (form : OrForm seen left)
    (read : plain (readOrRest left tokens) = .ok (expr, rest)) :
    ∃ back, tokens = back ++ rest ∧ OrForm (seen ++ back) expr := by
  rw [plain_readOrRest] at read
  split at read
  next after =>
    obtain ⟨⟨right, middle⟩, one, later⟩ := Result.bind_eq_ok.1 read
    change plain (readOrRest (.or left right) middle) = _ at later
    have fewer := fewer_of_plain one
    obtain ⟨front, split, second⟩ := and_sound one
    obtain ⟨back, whole, formed⟩ := orRest_sound (.more form second) later
    refine ⟨.or :: front ++ back, ?_, ?_⟩
    · rw [split, whole]
      simp
    · rw [← List.append_assoc]
      exact formed
  next =>
    cases read
    refine ⟨[], rfl, ?_⟩
    rw [List.append_nil]
    exact form
termination_by (tokens.length, 5)

theorem and_sound {tokens rest : List Token} {expr : Expr}
    (read : plain (readAnd tokens) = .ok (expr, rest)) :
    ∃ front, tokens = front ++ rest ∧ AndForm front expr := by
  rw [plain_readAnd] at read
  obtain ⟨⟨first, middle⟩, one, later⟩ := Result.bind_eq_ok.1 read
  change plain (readAndRest first middle) = _ at later
  have fewer := fewer_of_plain one
  obtain ⟨front, split, form⟩ := comparison_sound one
  obtain ⟨back, whole, formed⟩ := andRest_sound (.one form) later
  refine ⟨front ++ back, ?_, formed⟩
  rw [split, whole, List.append_assoc]
termination_by (tokens.length, 4)

theorem andRest_sound {seen tokens rest : List Token} {left expr : Expr} (form : AndForm seen left)
    (read : plain (readAndRest left tokens) = .ok (expr, rest)) :
    ∃ back, tokens = back ++ rest ∧ AndForm (seen ++ back) expr := by
  rw [plain_readAndRest] at read
  split at read
  next after =>
    obtain ⟨⟨right, middle⟩, one, later⟩ := Result.bind_eq_ok.1 read
    change plain (readAndRest (.and left right) middle) = _ at later
    have fewer := fewer_of_plain one
    obtain ⟨front, split, second⟩ := comparison_sound one
    obtain ⟨back, whole, formed⟩ := andRest_sound (.more form second) later
    refine ⟨.and :: front ++ back, ?_, ?_⟩
    · rw [split, whole]
      simp
    · rw [← List.append_assoc]
      exact formed
  next =>
    cases read
    refine ⟨[], rfl, ?_⟩
    rw [List.append_nil]
    exact form
termination_by (tokens.length, 4)

theorem comparison_sound {tokens rest : List Token} {expr : Expr}
    (read : plain (readComparison tokens) = .ok (expr, rest)) :
    ∃ front, tokens = front ++ rest ∧ ComparisonForm front expr := by
  rw [plain_readComparison] at read
  obtain ⟨⟨left, middle⟩, one, later⟩ := Result.bind_eq_ok.1 read
  have fewer := fewer_of_plain one
  obtain ⟨front, split, first⟩ := unary_sound one
  split at later
  next after tail =>
    change middle = .equal :: after at tail
    have shorter : after.length < tokens.length := by
      rw [tail, List.length_cons] at fewer
      omega
    obtain ⟨⟨right, left⟩, two, same⟩ := Result.bind_eq_ok.1 later
    cases same
    obtain ⟨back, whole, second⟩ := unary_sound two
    refine ⟨front ++ .equal :: back, ?_, .equal first second⟩
    rw [split, tail, whole, List.append_assoc, List.cons_append]
  next after tail =>
    change middle = .unequal :: after at tail
    have shorter : after.length < tokens.length := by
      rw [tail, List.length_cons] at fewer
      omega
    obtain ⟨⟨right, left⟩, two, same⟩ := Result.bind_eq_ok.1 later
    cases same
    obtain ⟨back, whole, second⟩ := unary_sound two
    refine ⟨front ++ .unequal :: back, ?_, .unequal first second⟩
    rw [split, tail, whole, List.append_assoc, List.cons_append]
  next after tail =>
    change middle = .within :: .leftParen :: after at tail
    have shorter : after.length < tokens.length := by
      rw [tail, List.length_cons, List.length_cons] at fewer
      omega
    obtain ⟨⟨items, left⟩, two, same⟩ := Result.bind_eq_ok.1 later
    cases same
    obtain ⟨inner, whole, second⟩ := list_sound two
    refine ⟨front ++ .within :: .leftParen :: (inner ++ [.rightParen]), ?_, .within first second⟩
    rw [split, tail, whole]
    simp
  next => cases later
  next =>
    cases later
    exact ⟨front, split, .one first⟩
termination_by (tokens.length, 3)

theorem unary_sound {tokens rest : List Token} {expr : Expr}
    (read : plain (readUnary tokens) = .ok (expr, rest)) :
    ∃ front, tokens = front ++ rest ∧ UnaryForm front expr := by
  rw [plain_readUnary] at read
  split at read
  next after =>
    obtain ⟨⟨operand, left⟩, one, same⟩ := Result.bind_eq_ok.1 read
    cases same
    obtain ⟨front, split, form⟩ := unary_sound one
    refine ⟨.not :: front, ?_, .not form⟩
    rw [split, List.cons_append]
  next =>
    obtain ⟨front, split, form⟩ := primary_sound read
    exact ⟨front, split, .primary form⟩
termination_by (tokens.length, 2)

theorem primary_sound {tokens rest : List Token} {expr : Expr}
    (read : plain (readPrimary tokens) = .ok (expr, rest)) :
    ∃ front, tokens = front ++ rest ∧ PrimaryForm front expr := by
  rw [plain_readPrimary] at read
  split at read
  next value after =>
    cases read
    exact ⟨[.literal value], rfl, .literal value⟩
  next after =>
    cases read
    exact ⟨[.truth], rfl, .truth⟩
  next after =>
    cases read
    exact ⟨[.falsity], rfl, .falsity⟩
  next name after =>
    obtain ⟨⟨arguments, left⟩, one, same⟩ := Result.bind_eq_ok.1 read
    cases same
    obtain ⟨inner, whole, form⟩ := list_sound one
    refine ⟨.identifier name :: .leftParen :: (inner ++ [.rightParen]), ?_, .call name form⟩
    rw [whole]
    simp
  next name after _ =>
    obtain ⟨⟨more, left⟩, one, same⟩ := Result.bind_eq_ok.1 read
    cases same
    refine ⟨.identifier name :: segmentTokens more, ?_, .path name more⟩
    rw [segments_sound one, List.cons_append]
  next after =>
    obtain ⟨⟨inner, tail⟩, one, closed⟩ := Result.bind_eq_ok.1 read
    obtain ⟨front, whole, form⟩ := or_sound one
    split at closed
    next left same =>
      change tail = .rightParen :: left at same
      cases closed
      refine ⟨.leftParen :: (front ++ [.rightParen]), ?_, .grouped form⟩
      rw [whole, same]
      simp
    next => cases closed
  next => cases read
  next => cases read
termination_by (tokens.length, 1)

theorem list_sound {tokens rest : List Token} {items : List Expr}
    (read : plain (readList tokens) = .ok (items, rest)) :
    ∃ inner, tokens = inner ++ .rightParen :: rest ∧ ListForm inner items := by
  rw [plain_readList] at read
  split at read
  next =>
    cases read
    exact ⟨[], rfl, .empty⟩
  next =>
    obtain ⟨inner, whole, form⟩ := items_sound read
    exact ⟨inner, whole, .items form⟩
termination_by (tokens.length, 7)

theorem items_sound {tokens rest : List Token} {items : List Expr}
    (read : plain (readItems tokens) = .ok (items, rest)) :
    ∃ inner, tokens = inner ++ .rightParen :: rest ∧ ItemsForm inner items := by
  rw [plain_readItems] at read
  obtain ⟨⟨first, middle⟩, one, later⟩ := Result.bind_eq_ok.1 read
  have fewer := fewer_of_plain one
  obtain ⟨front, split, form⟩ := or_sound one
  split at later
  next after tail =>
    change middle = .comma :: after at tail
    have shorter : after.length < tokens.length := by
      rw [tail, List.length_cons] at fewer
      omega
    obtain ⟨⟨others, left⟩, two, same⟩ := Result.bind_eq_ok.1 later
    cases same
    obtain ⟨back, whole, second⟩ := items_sound two
    refine ⟨front ++ .comma :: back, ?_, .more form second⟩
    rw [split, tail, whole, List.append_assoc, List.cons_append]
  next after tail =>
    change middle = .rightParen :: after at tail
    cases later
    refine ⟨front, ?_, .one form⟩
    rw [split, tail]
  next => cases later
termination_by (tokens.length, 6)

end

/-- How tightly a token holds on to an expression before it: the higher, the smaller the expression. -/
def grip : Token → Nat
  | .dot | .leftParen => 4
  | .equal | .unequal | .within => 3
  | .and => 2
  | .or => 1
  | _ => 0

/-- What comes next does not go on with an expression that is over where this grip begins. -/
def Stops (limit : Nat) (rest : List Token) : Prop := ∀ token ∈ rest.head?, grip token < limit

theorem stops_nil {limit : Nat} : Stops limit [] := by
  intro token next
  cases next

theorem stops_cons {limit : Nat} {token : Token} (loose : grip token < limit) (rest : List Token) :
    Stops limit (token :: rest) := by
  intro other next
  cases next
  exact loose

theorem Stops.mono {limit limit' : Nat} {rest : List Token} (stops : Stops limit rest)
    (wider : limit ≤ limit') : Stops limit' rest := by
  intro token next
  have loose := stops token next
  omega

theorem segments_complete {rest : List Token} (stops : Stops 4 rest) (more : List String) :
    plain (readSegments (segmentTokens more ++ rest)) = .ok (more, rest) := by
  induction more with
  | nil =>
    change plain (readSegments rest) = _
    rw [plain_readSegments]
    split
    next => exact absurd (stops .dot rfl) (by decide)
    next => exact absurd (stops .dot rfl) (by decide)
    next => rfl
  | cons segment more ih =>
    change plain (readSegments (.dot :: .identifier segment :: (segmentTokens more ++ rest))) = _
    rw [plain_readSegments]
    simp only [ih]
    rfl

theorem orRest_of_stops {rest : List Token} (stops : Stops 1 rest) (left : Expr) :
    plain (readOrRest left rest) = .ok (left, rest) := by
  rw [plain_readOrRest]
  split
  next => exact absurd (stops .or rfl) (by decide)
  next => rfl

theorem andRest_of_stops {rest : List Token} (stops : Stops 2 rest) (left : Expr) :
    plain (readAndRest left rest) = .ok (left, rest) := by
  rw [plain_readAndRest]
  split
  next => exact absurd (stops .and rfl) (by decide)
  next => rfl

/-- A name that no list follows is the first segment of a path. -/
theorem path_of_segments {tokens : List Token} (noCall : ∀ after, tokens ≠ .leftParen :: after)
    (first : String) :
    plain (readPrimary (.identifier first :: tokens)) =
      plain (readSegments tokens) >>= fun segments => pure (.path first segments.1, segments.2) := by
  rw [plain_readPrimary]
  cases tokens with
  | nil => rfl
  | cons token rest =>
    cases token with
    | leftParen => exact absurd rfl (noCall rest)
    | _ => rfl

/-- No item begins with the end of the list. -/
theorem items_of_rightParen (rest : List Token) :
    plain (readItems (.rightParen :: rest)) = .error (.unexpected (some .rightParen)) := by
  rw [plain_readItems, plain_readOr, plain_readAnd, plain_readComparison, plain_readUnary]
  simp only [plain_readPrimary]
  rfl

mutual

/-- After a derivation of alternatives the reader is where it would be with their tree on its left. -/
theorem or_complete {tokens : List Token} {expr : Expr} : OrForm tokens expr →
    ∀ {rest : List Token}, Stops 2 rest →
      plain (readOr (tokens ++ rest)) = plain (readOrRest expr rest)
  | .one form, rest, stops => by
    rw [plain_readOr, and_complete form (stops.mono (by decide)), andRest_of_stops stops]
    rfl
  | .more first second, rest, stops => by
    rw [List.append_assoc, List.cons_append, or_complete first (stops_cons (by decide) _),
      plain_readOrRest]
    simp only [and_complete second (stops.mono (by decide)), andRest_of_stops stops]
    rfl

theorem and_complete {tokens : List Token} {expr : Expr} : AndForm tokens expr →
    ∀ {rest : List Token}, Stops 3 rest →
      plain (readAnd (tokens ++ rest)) = plain (readAndRest expr rest)
  | .one form, rest, stops => by
    rw [plain_readAnd, comparison_complete form stops]
    rfl
  | .more first second, rest, stops => by
    rw [List.append_assoc, List.cons_append, and_complete first (stops_cons (by decide) _),
      plain_readAndRest]
    simp only [comparison_complete second stops]
    rfl

theorem comparison_complete {tokens : List Token} {expr : Expr} : ComparisonForm tokens expr →
    ∀ {rest : List Token}, Stops 3 rest → plain (readComparison (tokens ++ rest)) = .ok (expr, rest)
  | .one form, rest, stops => by
    rw [plain_readComparison, unary_complete form (stops.mono (by decide))]
    dsimp only [bind, Except.bind]
    split
    next => exact absurd (stops .equal rfl) (by decide)
    next => exact absurd (stops .unequal rfl) (by decide)
    next => exact absurd (stops .within rfl) (by decide)
    next => exact absurd (stops .within rfl) (by decide)
    next => rfl
  | .equal first second, rest, stops => by
    rw [List.append_assoc, List.cons_append, plain_readComparison,
      unary_complete first (stops_cons (by decide) _)]
    show plain (readUnary (_ ++ rest)) >>= _ = _
    rw [unary_complete second (stops.mono (by decide))]
    rfl
  | .unequal first second, rest, stops => by
    rw [List.append_assoc, List.cons_append, plain_readComparison,
      unary_complete first (stops_cons (by decide) _)]
    show plain (readUnary (_ ++ rest)) >>= _ = _
    rw [unary_complete second (stops.mono (by decide))]
    rfl
  | .within first second, rest, stops => by
    rw [List.append_assoc, List.cons_append, plain_readComparison,
      unary_complete first (stops_cons (by decide) _), List.cons_append, List.append_assoc]
    show plain (readList (_ ++ .rightParen :: rest)) >>= _ = _
    rw [list_complete second]
    rfl

theorem unary_complete {tokens : List Token} {expr : Expr} : UnaryForm tokens expr →
    ∀ {rest : List Token}, Stops 4 rest → plain (readUnary (tokens ++ rest)) = .ok (expr, rest)
  | .not form, rest, stops => by
    rw [List.cons_append, plain_readUnary]
    simp only [unary_complete form stops]
    rfl
  | .primary form, rest, stops => by
    have read := primary_complete form stops
    rw [plain_readUnary]
    split
    -- No primary begins with a negation.
    next after same =>
      rw [same, plain_readPrimary] at read
      cases read
    next => exact read

theorem primary_complete {tokens : List Token} {expr : Expr} : PrimaryForm tokens expr →
    ∀ {rest : List Token}, Stops 4 rest → plain (readPrimary (tokens ++ rest)) = .ok (expr, rest)
  | .literal value, rest, stops => by
    rw [plain_readPrimary]
    rfl
  | .truth, rest, stops => by
    rw [plain_readPrimary]
    rfl
  | .falsity, rest, stops => by
    rw [plain_readPrimary]
    rfl
  | .call name form, rest, stops => by
    rw [List.cons_append, List.cons_append, List.append_assoc, plain_readPrimary]
    show plain (readList (_ ++ .rightParen :: rest)) >>= _ = _
    rw [list_complete form]
    rfl
  | .path first more, rest, stops => by
    rw [List.cons_append, path_of_segments, segments_complete stops]
    · rfl
    · -- A parenthesis at once after the name would make it a call.
      intro after same
      cases more with
      | nil =>
        change rest = _ at same
        rw [same] at stops
        exact absurd (stops .leftParen rfl) (by decide)
      | cons segment more => cases same
  | .grouped form, rest, stops => by
    rw [List.cons_append, List.append_assoc, plain_readPrimary]
    show plain (readOr (_ ++ .rightParen :: rest)) >>= _ = _
    rw [or_complete form (stops_cons (by decide) _), orRest_of_stops (stops_cons (by decide) _)]
    rfl

theorem list_complete {tokens : List Token} {items : List Expr} : ListForm tokens items →
    ∀ {rest : List Token}, plain (readList (tokens ++ .rightParen :: rest)) = .ok (items, rest)
  | .empty, rest => by
    rw [List.nil_append, plain_readList]
  | .items form, rest => by
    have read : plain (readItems (tokens ++ .rightParen :: rest)) = .ok (items, rest) :=
      items_complete form
    rw [plain_readList]
    split
    next after same =>
      rw [same, items_of_rightParen] at read
      cases read
    next => exact read

theorem items_complete {tokens : List Token} {items : List Expr} : ItemsForm tokens items →
    ∀ {rest : List Token}, plain (readItems (tokens ++ .rightParen :: rest)) = .ok (items, rest)
  | .one form, rest => by
    rw [plain_readItems, or_complete form (stops_cons (by decide) _),
      orRest_of_stops (stops_cons (by decide) _)]
    rfl
  | .more first second, rest => by
    rw [List.append_assoc, List.cons_append, plain_readItems,
      or_complete first (stops_cons (by decide) _), orRest_of_stops (stops_cons (by decide) _)]
    show plain (readItems (_ ++ .rightParen :: rest)) >>= _ = _
    rw [items_complete second]
    rfl

end

theorem ofTokens_eq_ok_iff_readOr {tokens : List Token} {expr : Expr} :
    ofTokens tokens = .ok expr ↔ plain (readOr tokens) = .ok (expr, []) := by
  cases tokens with
  | nil =>
    constructor
    · intro read
      cases read
    · intro read
      rw [plain_readOr, plain_readAnd, plain_readComparison, plain_readUnary] at read
      simp only [plain_readPrimary] at read
      cases read
  | cons token rest =>
    unfold ofTokens plain
    cases readOr (token :: rest) with
    | error fault =>
      constructor
      · intro read
        cases read
      · intro read
        cases read
    | ok parsed =>
      obtain ⟨value, left, fewer⟩ := parsed
      cases left with
      | nil =>
        constructor
        · intro read
          cases read
          rfl
        · intro read
          cases read
          rfl
      | cons next after =>
        constructor
        · intro read
          cases read
        · intro read
          cases read

/-- The reader accepts the tokens that derive from the grammar, and no others, and builds their tree. -/
theorem ofTokens_eq_ok {tokens : List Token} {expr : Expr} :
    ofTokens tokens = .ok expr ↔ OrForm tokens expr := by
  rw [ofTokens_eq_ok_iff_readOr]
  constructor
  · intro read
    obtain ⟨front, same, form⟩ := or_sound read
    rw [List.append_nil] at same
    exact same ▸ form
  · intro form
    have read := or_complete form stops_nil
    rw [List.append_nil] at read
    rw [read, orRest_of_stops stops_nil]

end AccessControl.Expr
