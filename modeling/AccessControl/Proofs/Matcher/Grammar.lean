import AccessControl.Matcher.Expr
/-!
The grammar of matcher expressions as relations between tokens and the trees that they form:

    or      = and ("||" and)*
    and     = comparison ("&&" comparison)*
    comparison = unary (("==" | "!=") unary | "in" "(" list ")")?
    unary   = "!" unary | primary
    primary = literal | "true" | "false" | word "(" list ")" | word ("." word)* | "(" or ")"
    list    = nothing, or expressions with commas between them

The relations know nothing of a reader: they say of whole lists of tokens what they form. Alternatives
and conjuncts are added on the right, so that both connectives group to the left.
-/
namespace AccessControl.Expr

/-- The tokens of the further segments of a path. -/
def segmentTokens (more : List String) : List Token :=
  more.flatMap fun segment => [.dot, .identifier segment]

mutual

inductive OrForm : List Token → Expr → Prop
  | one {tokens : List Token} {expr : Expr} (form : AndForm tokens expr) : OrForm tokens expr
  | more {front back : List Token} {left right : Expr} (first : OrForm front left)
      (second : AndForm back right) : OrForm (front ++ .or :: back) (.or left right)

inductive AndForm : List Token → Expr → Prop
  | one {tokens : List Token} {expr : Expr} (form : ComparisonForm tokens expr) : AndForm tokens expr
  | more {front back : List Token} {left right : Expr} (first : AndForm front left)
      (second : ComparisonForm back right) : AndForm (front ++ .and :: back) (.and left right)

inductive ComparisonForm : List Token → Expr → Prop
  | one {tokens : List Token} {expr : Expr} (form : UnaryForm tokens expr) : ComparisonForm tokens expr
  | equal {front back : List Token} {left right : Expr} (first : UnaryForm front left)
      (second : UnaryForm back right) : ComparisonForm (front ++ .equal :: back) (.equal left right)
  | unequal {front back : List Token} {left right : Expr} (first : UnaryForm front left)
      (second : UnaryForm back right) :
      ComparisonForm (front ++ .unequal :: back) (.unequal left right)
  | within {front inner : List Token} {element : Expr} {items : List Expr}
      (first : UnaryForm front element) (second : ListForm inner items) :
      ComparisonForm (front ++ .within :: .leftParen :: (inner ++ [.rightParen])) (.within element items)

inductive UnaryForm : List Token → Expr → Prop
  | not {tokens : List Token} {operand : Expr} (form : UnaryForm tokens operand) :
      UnaryForm (.not :: tokens) (.not operand)
  | primary {tokens : List Token} {expr : Expr} (form : PrimaryForm tokens expr) : UnaryForm tokens expr

inductive PrimaryForm : List Token → Expr → Prop
  | literal (value : String) : PrimaryForm [.literal value] (.literal value)
  | truth : PrimaryForm [.truth] (.constant true)
  | falsity : PrimaryForm [.falsity] (.constant false)
  | call (name : String) {inner : List Token} {arguments : List Expr}
      (form : ListForm inner arguments) :
      PrimaryForm (.identifier name :: .leftParen :: (inner ++ [.rightParen])) (.call name arguments)
  | path (first : String) (more : List String) :
      PrimaryForm (.identifier first :: segmentTokens more) (.path first more)
  | grouped {tokens : List Token} {expr : Expr} (form : OrForm tokens expr) :
      PrimaryForm (.leftParen :: (tokens ++ [.rightParen])) expr

inductive ListForm : List Token → List Expr → Prop
  | empty : ListForm [] []
  | items {tokens : List Token} {items : List Expr} (form : ItemsForm tokens items) :
      ListForm tokens items

inductive ItemsForm : List Token → List Expr → Prop
  | one {tokens : List Token} {item : Expr} (form : OrForm tokens item) : ItemsForm tokens [item]
  | more {front back : List Token} {item : Expr} {items : List Expr} (first : OrForm front item)
      (second : ItemsForm back items) : ItemsForm (front ++ .comma :: back) (item :: items)

end

end AccessControl.Expr
