import AccessControl.Matcher.Evaluation
import AccessControl.Model
import AccessControl.Row
import AccessControl.Unicode.Word
/-!
The ways in which the library can fail, as causes, and the reports of them: what is shown of an error, in
words. A report has a message, a code that tells its class, and for some classes a hint on what to do. Texts
in messages stand in quotes: a quote or a backslash has a backslash before it; line ends and tabs are written
with a letter; what would not be seen or would blend with its neighbour is written by its code point; all else
stands as it is.
-/
namespace AccessControl

inductive FileFault where
  | notFound
  | invalidData
  | isADirectory
  | notADirectory
deriving DecidableEq, Repr

inductive Error where
  | model (fault : Model.Fault)
  | matcher (fault : Matcher.Fault)
  | evaluation (fault : Term.Fault)
  | effect (expression : String)
  | requestArity (declared given : Nat)
  | ruleArity (type : String) (declared given : Nat)
  | unknownType (type : String)
  | lineBreak (type : String) (index : Nat)
  | effectValue (value : String)
  | malformedRow (row : Nat) (fault : Row.Fault)
  | storage (path : String) (fault : FileFault)
  | database
  | noStorage
deriving DecidableEq, Repr

/-- Whether a value matches a pattern, and the cache after the test. What is no pattern is an error of
evaluation. -/
def PatternCache.test [Regex.Engine] (cache : PatternCache) (value pattern : String) :
    Except Error Bool × PatternCache :=
  match cache.fits? value pattern with
  | (some answer, after) => (.ok answer, after)
  | (none, after) => (.error (.evaluation (.invalidPattern pattern)), after)

namespace Text

/-- Characters that would not be seen, or that would blend with the one before. -/
def invisible : CharSet :=
  let hidden := Unicode.Formula.categories ["zs", "zl", "zp", "cc", "cf", "co", "cn"]
  let joining := Unicode.graphemeExtend ∪ Unicode.defaultIgnorable
  ((hidden ∪ joining) \ (Unicode.laterVisible ∪ .points ["20"])).set

/-- A character as it stands in a quoted text. -/
def quoteChar (c : Char) : List Char :=
  match c with
  | '\x00' => ['\\', '0']
  | '\t' => ['\\', 't']
  | '\n' => ['\\', 'n']
  | '\r' => ['\\', 'r']
  | '"' => ['\\', '"']
  | '\\' => ['\\', '\\']
  | c =>
    if invisible.contains c then
      ['\\', 'u', '\x7b'] ++ (Nat.toDigits 16 c.toNat ++ ['\x7d'])
    else [c]

def quoted (text : String) : String :=
  String.ofList ('"' :: (text.toList.flatMap quoteChar ++ ['"']))

end Text

/-- The classes of reports, with the details that their messages give. -/
inductive Report where
  | model (detail : String)
  | matcher (detail : String)
  | evaluation (detail : String)
  | effect (expression : String)
  | requestArity (declared given : Nat)
  | ruleArity (type : String) (declared given : Nat)
  | unknownType (type : String)
  | lineBreak (type : String) (index : Nat)
  | effectValue (value : String)
  | malformedRow (row : Nat) (detail : String)
  | storage (path : String) (fault : FileFault)
  | database
  | noStorage
deriving DecidableEq, Repr

namespace Report

/-- A name or text in the quotes of messages. -/
def tick (text : String) : String := "`" ++ text ++ "`"

def message : Report → String
  | model detail => "Invalid model: " ++ detail
  | matcher detail => "Invalid matcher expression: " ++ detail
  | evaluation detail => "Matcher evaluation failed: " ++ detail
  | effect expression => "Unsupported policy effect " ++ tick expression
  | requestArity declared given =>
    "Request has " ++ toString given ++ " values but the request definition declares " ++ toString declared
  | ruleArity type declared given =>
    "Rule " ++ tick type ++ " has " ++ toString given ++ " fields but its definition declares " ++
      toString declared
  | unknownType type => "Undefined policy type " ++ tick type
  | lineBreak type index =>
    "Rule " ++ tick type ++ " field " ++ toString index ++ " contains a line break"
  | effectValue value => "Invalid effect " ++ tick value ++ " on rule (expected `allow` or `deny`)"
  | malformedRow row detail => "Malformed policy row " ++ toString row ++ ": " ++ detail
  | storage path _ => "Failed to access policy storage " ++ tick path
  | database => "Database error"
  | noStorage => "No persistence adapter configured"

def code : Report → String
  | model _ => "warden::authz::model_parse"
  | matcher _ => "warden::authz::invalid_matcher"
  | evaluation _ => "warden::authz::eval"
  | effect _ => "warden::authz::invalid_effect"
  | requestArity .. => "warden::authz::request_arity"
  | ruleArity .. => "warden::authz::rule_arity"
  | unknownType _ => "warden::authz::unknown_ptype"
  | lineBreak .. => "warden::authz::invalid_field"
  | effectValue _ => "warden::authz::invalid_effect_value"
  | malformedRow .. => "warden::authz::malformed_row"
  | storage .. => "warden::authz::storage"
  | database => "warden::authz::db"
  | noStorage => "warden::authz::no_adapter"

def help? : Report → Option String
  | model _ => some
      "A model needs `r`, at least one `p`, `e` and `m` sections written as `key = value` lines"
  | matcher _ => some ("Supported operators: ==, !=, &&, ||, !, in. Fields are addressed as " ++
      "r.<name> / p.<name>; role checks as g(...)")
  | effect _ => some ("Use some(where (p.eft == allow)), !some(where (p.eft == deny)), their " ++
      "conjunction, or priority(p.eft), optionally followed by `|| allow` / `|| deny`")
  | unknownType _ => some "Declare it in the model, e.g. `p2 = sub, obj, act` or `g2 = _, _`"
  | lineBreak .. => some
      "Rule fields are stored one rule per line; remove `\\r` and `\\n` from the value"
  | malformedRow .. => some
      "Each row is `ptype, field1, field2, ...`; quote fields that contain commas"
  | storage .. => some "Check that the file exists and that the process may read and write it"
  | noStorage => some "Build the enforcer with Enforcer::with_adapter to load or save policy"
  | evaluation _ | requestArity .. | ruleArity .. | effectValue _ | database => none

end Report
open Report (tick)

def Model.LineFault.detail : Model.LineFault → String
  | .unterminatedHeader => "unterminated section header"
  | .unknownSection name => "unknown section " ++ tick ("[" ++ name ++ "]")
  | .noDefinition => "expected `key = value`"
  | .unknownKey key => "unknown section key " ++ tick key
  | .misplaced key => "key " ++ tick key ++ " does not belong in this section"
  | .duplicate key => "duplicate definition of " ++ tick key
  | .emptyDefinition key => tick key ++ " has an empty definition"
  | .invalidField field key => "invalid field name " ++ tick field ++ " in " ++ tick key
  | .repeatedField field key => "field " ++ tick field ++ " declared twice in " ++ tick key
  | .invalidRole key => "role definition " ++ tick key ++ " must be `_, _` or `_, _, _`"

def Model.Fault.detail : Model.Fault → String
  | .line number fault => "line " ++ toString number ++ ": " ++ fault.detail
  | .missing .request => "missing request definition `r`"
  | .missing .policy => "missing policy definition `p`"
  | .missing .role => "missing role definition `g`"
  | .missing .effect => "missing policy effect `e`"
  | .missing .matcher => "missing matcher `m`"

def Token.text : Token → String
  | identifier name => "Ident(" ++ Text.quoted name ++ ")"
  | literal value => "Str(" ++ Text.quoted value ++ ")"
  | truth => "True"
  | falsity => "False"
  | dot => "Dot"
  | comma => "Comma"
  | leftParen => "LParen"
  | rightParen => "RParen"
  | equal => "Eq"
  | unequal => "Ne"
  | and => "And"
  | or => "Or"
  | not => "Not"
  | within => "In"

def Token.Fault.detail : Token.Fault → String
  | .unterminatedLiteral => "unterminated string literal"
  | .unexpectedCharacter c => "unexpected character " ++ tick c.toString

def Expr.Fault.detail : Expr.Fault → String
  | .empty => "empty expression"
  | .missingListStart => "expected `(` after `in`"
  | .missingClosing => "expected closing parenthesis `)`"
  | .missingIdentifier => "expected identifier after `.`"
  | .missingSeparator => "expected `,` or `)` in argument list"
  | .unexpected none => "unexpected token: None"
  | .unexpected (some token) => "unexpected token: Some(" ++ token.text ++ ")"
  | .trailing token => "unexpected trailing token: " ++ token.text

def Term.Fault.detail : Term.Fault → String
  | .notBoolean operator => tick operator ++ " requires boolean operands"
  | .notText function => tick function ++ " arguments must be strings"
  | .textResult value => "matcher must evaluate to a boolean, got string " ++ tick value
  | .invalidPattern pattern => "invalid regex " ++ tick pattern
  | .absentField index => "no field at position " ++ toString index

def Matcher.Fault.detail : Matcher.Fault → String
  | .tokens fault => fault.detail
  | .grammar fault => fault.detail
  | .noPolicyType => "model has no policy type"
  | .severalTypes types => "matcher references several policy types: " ++ ", ".intercalate types
  | .notField segments =>
    tick (".".intercalate segments) ++ " is not a field reference (expected r.<field> or p.<field>)"
  | .unknownRequestField field => "unknown request field " ++ tick ("r." ++ field)
  | .unknownPolicyField type field => "unknown policy field " ++ tick (type ++ "." ++ field)
  | .unknownIdentifier scope field => "unknown identifier " ++ tick (scope ++ "." ++ field)
  | .roleArity function declared given =>
    "role function " ++ tick function ++ " takes " ++ toString declared ++ " arguments, got " ++
      toString given
  | .builtinArity function => "function " ++ tick function ++ " takes 2 arguments"
  | .undefinedFunction function => "undefined function " ++ tick function
  | .invalidPattern pattern => (Report.evaluation (Term.Fault.invalidPattern pattern).detail).message

def Row.Fault.detail : Row.Fault → String
  | .unterminatedQuote => "unterminated quoted field"
  | .textAfterQuote => "unexpected text after quoted field"
  | .missingType => "missing policy type"
  | .noFields type => tick type ++ " row has no fields"
  | .tooWide type fields limit =>
    tick type ++ " rule has " ++ toString fields ++ " fields, the table holds at most " ++ toString limit

def Error.report : Error → Report
  | .model fault => .model fault.detail
  | .matcher fault => .matcher fault.detail
  | .evaluation fault => .evaluation fault.detail
  | .effect expression => .effect expression
  | .requestArity declared given => .requestArity declared given
  | .ruleArity type declared given => .ruleArity type declared given
  | .unknownType type => .unknownType type
  | .lineBreak type index => .lineBreak type index
  | .effectValue value => .effectValue value
  | .malformedRow row fault => .malformedRow row fault.detail
  | .storage path fault => .storage path fault
  | .database => .database
  | .noStorage => .noStorage

end AccessControl
