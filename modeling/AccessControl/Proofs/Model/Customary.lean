import AccessControl.Proofs.Enforcer.Decisions
import AccessControl.Proofs.Matcher.Printing
import Mathlib
/-!
The customary models of roles: a subject may do to an object what it or one of its roles may do, either
everywhere or in each domain on its own. Their matchers are given as texts, of which only the tree
counts. What such a matcher says of a request and a rule is told here in terms of links and equal fields;
it never fails.
-/
namespace AccessControl

/-- The matcher of a model with roles that hold everywhere. -/
def roleMatcher : String := "g(r.sub, p.sub) && r.obj == p.obj && r.act == p.act"

/-- The matcher of a model with roles of domains. -/
def domainMatcher : String :=
  "g(r.sub, p.sub, r.dom) && r.dom == p.dom && r.obj == p.obj && r.act == p.act"

namespace Model

/-- A subject may do to an object what one of its roles may do to it. -/
structure OfRoles (model : Model) : Prop where
  request : model.request = ["sub", "obj", "act"]
  policy : model.policies.find? "p" = some ["sub", "obj", "act"]
  role : model.roles.find? "g" = some .global
  matcher : Matcher.parse model.matcher = Matcher.parse roleMatcher

/-- In a domain a subject may do to an object what one of its roles there may do to it. The rules may
have more fields, such as one for their effect. -/
structure OfDomains (model : Model) (more : List String) : Prop where
  request : model.request = ["sub", "dom", "obj", "act"]
  policy : model.policies.find? "p" = some ("sub" :: "dom" :: "obj" :: "act" :: more)
  role : model.roles.find? "g" = some .perDomain
  matcher : Matcher.parse model.matcher = Matcher.parse domainMatcher

end Model

namespace Expr

/-- A field of the request is equal to that of the rule. -/
def sameField (name : String) : Expr := .equal (.path "r" [name]) (.path "p" [name])

def ofRoles : Expr :=
  .and (.and (.call "g" [.path "r" ["sub"], .path "p" ["sub"]]) (sameField "obj")) (sameField "act")

def ofDomains : Expr :=
  .and (.and (.and (.call "g" [.path "r" ["sub"], .path "p" ["sub"], .path "r" ["dom"]])
    (sameField "dom")) (sameField "obj")) (sameField "act")

theorem parse_roleMatcher : Matcher.parse roleMatcher = .ok ofRoles := by
  have read : Token.ofText roleMatcher.toList = .ok ofRoles.tokens := by decide +kernel
  exact Matcher.parse_eq_ok.2 ⟨_, read, (form_tokens ofRoles).whole⟩

theorem parse_domainMatcher : Matcher.parse domainMatcher = .ok ofDomains := by
  have read : Token.ofText domainMatcher.toList = .ok ofDomains.tokens := by decide +kernel
  exact Matcher.parse_eq_ok.2 ⟨_, read, (form_tokens ofDomains).whole⟩

section
variable [Regex.Engine] {model : Model} {scope : Scope} {names : List String}

theorem meaning_request (type name : String) {value : String}
    (asked : (model.request.zip scope.request).lookup name = some value) :
    (path "r" [name]).meaning model type scope = .ok (.text value) := by
  simp only [meaning, field, if_pos, named, asked]

theorem meaning_rule (name : String) (declared : model.policies.find? "p" = some names) {value : String}
    (stated : (names.zip scope.rule).lookup name = some value) :
    (path "p" [name]).meaning model "p" scope = .ok (.text value) := by
  have other : "p" ≠ "r" := by decide
  simp only [meaning, field, if_neg other, if_pos, named, declared, Option.getD_some, stated]

theorem meaning_sameField (name : String) (declared : model.policies.find? "p" = some names)
    {one other : String} (asked : (model.request.zip scope.request).lookup name = some one)
    (stated : (names.zip scope.rule).lookup name = some other) :
    (sameField name).meaning model "p" scope = .ok (.truth (one == other)) := by
  have texts : (Value.text one == Value.text other) = (one == other) := by
    rw [Bool.eq_iff_iff, beq_iff_eq, beq_iff_eq, Value.text.injEq]
  rw [sameField, meaning, meaning_request _ _ asked, meaning_rule _ declared stated, ← texts]
  rfl

theorem meaning_and {type : String} {left right : Expr} {first second : Bool}
    (one : left.meaning model type scope = .ok (.truth first))
    (other : right.meaning model type scope = .ok (.truth second)) :
    (Expr.and left right).meaning model type scope = .ok (.truth (first && second)) := by
  rw [meaning, one, other]
  cases first <;> rfl

theorem texts_cons {type value : String} {item : Expr} {rest : List Expr} {values : List String}
    (first : item.meaning model type scope = .ok (.text value))
    (later : texts model type scope rest = .ok values) :
    texts model type scope (item :: rest) = .ok (value :: values) := by
  rw [texts, first, later]
  rfl

theorem meaning_call {type name : String} {arguments : List Expr} {values : List String} {answer : Bool}
    (read : texts model type scope arguments = .ok values)
    (answered : called model scope name values = .ok answer) :
    (call name arguments).meaning model type scope = .ok (.truth answer) := by
  rw [meaning, read]
  show (do return Value.truth (← called model scope name values)) = _
  rw [answered]
  rfl

theorem texts_nil (type : String) : texts model type scope [] = .ok [] := by
  rw [texts]
  rfl

variable {relation : RoleRelation} (known : scope.roles.find? "g" = some relation)
include known

theorem called_relation {shape : RoleShape} (declared : model.roles.find? "g" = some shape)
    (member role : String) (domain? : Option String) :
    called model scope "g" (member :: role :: domain?.toList) =
      .ok (relation.reaches member role domain?) := by
  have has : model.roles.has "g" = true := by rw [Catalogue.has, declared]; rfl
  unfold called
  rw [if_pos has]
  cases domain? <;> simp only [known, Option.toList_none, Option.toList_some]

/-- A request matches a rule if its subject has the role of the rule and the other fields are equal. -/
theorem decision_ofRoles (roles : model.OfRoles) {subject object action : String}
    (request : scope.request = [subject, object, action]) {role object' action' : String}
    (rule : scope.rule = [role, object', action']) :
    ofRoles.decision model "p" scope =
      .ok (relation.reaches subject role none && object == object' && action == action') := by
  have asked : model.request.zip scope.request =
      [("sub", subject), ("obj", object), ("act", action)] := by
    rw [roles.request, request]
    rfl
  have stated : ["sub", "obj", "act"].zip scope.rule =
      [("sub", role), ("obj", object'), ("act", action')] := by
    rw [rule]
    rfl
  have member : (path "r" ["sub"]).meaning model "p" scope = .ok (.text subject) :=
    meaning_request "p" "sub" (by rw [asked]; rfl)
  have sought : (path "p" ["sub"]).meaning model "p" scope = .ok (.text role) :=
    meaning_rule "sub" roles.policy (by rw [stated]; rfl)
  have linked := meaning_call (texts_cons member (texts_cons sought (texts_nil "p")))
    (called_relation known roles.role subject role none)
  have objects := meaning_sameField "obj" roles.policy (by rw [asked]; rfl) (by rw [stated]; rfl)
  have actions := meaning_sameField "act" roles.policy (by rw [asked]; rfl) (by rw [stated]; rfl)
  rw [decision, ofRoles, meaning_and (meaning_and linked objects) actions]
  rfl

/-- The same in the domain of the request, which is also to be that of the rule. -/
theorem decision_ofDomains {more : List String} (domains : model.OfDomains more)
    {subject domain object action : String} (request : scope.request = [subject, domain, object, action])
    {role domain' object' action' : String} {rest : List String}
    (rule : scope.rule = role :: domain' :: object' :: action' :: rest) :
    ofDomains.decision model "p" scope =
      .ok (relation.reaches subject role (some domain) && domain == domain' && object == object' &&
        action == action') := by
  have asked : model.request.zip scope.request =
      [("sub", subject), ("dom", domain), ("obj", object), ("act", action)] := by
    rw [domains.request, request]
    rfl
  have stated : ("sub" :: "dom" :: "obj" :: "act" :: more).zip scope.rule =
      ("sub", role) :: ("dom", domain') :: ("obj", object') :: ("act", action') :: more.zip rest := by
    rw [rule]
    rfl
  have member : (path "r" ["sub"]).meaning model "p" scope = .ok (.text subject) :=
    meaning_request "p" "sub" (by rw [asked]; rfl)
  have sought : (path "p" ["sub"]).meaning model "p" scope = .ok (.text role) :=
    meaning_rule "sub" domains.policy (by rw [stated]; rfl)
  have place : (path "r" ["dom"]).meaning model "p" scope = .ok (.text domain) :=
    meaning_request "p" "dom" (by rw [asked]; rfl)
  have linked := meaning_call (texts_cons member (texts_cons sought (texts_cons place (texts_nil "p"))))
    (called_relation known domains.role subject role (some domain))
  have places := meaning_sameField "dom" domains.policy (by rw [asked]; rfl) (by rw [stated]; rfl)
  have objects := meaning_sameField "obj" domains.policy (by rw [asked]; rfl) (by rw [stated]; rfl)
  have actions := meaning_sameField "act" domains.policy (by rw [asked]; rfl) (by rw [stated]; rfl)
  rw [decision, ofDomains, meaning_and (meaning_and (meaning_and linked places) objects) actions]
  rfl

end

end Expr

namespace Matcher
variable [Regex.Engine] {model : Model} {matcher : Matcher} {expr : Expr}

/-- Where a matcher is known as a tree, it decides what the tree means. -/
theorem eval_eq_ok (compiles : compile model = .ok matcher) (parsed : parse model.matcher = .ok expr)
    {scope : Scope} {names : List String}
    (fits : scope.Fits model matcher.type names) {answer : Bool}
    (decided : expr.decision model matcher.type scope = .ok answer) :
    matcher.eval scope = .ok answer := by
  obtain ⟨other, read, -, bound⟩ := compile_eq_ok.1 compiles
  rw [parsed] at read
  cases read
  rw [eval_eq_value]
  exact Result.mapError_eq_ok.1 ((agrees_value fits bound).same.trans decided)

variable (keyed : model.Keyed) (compiles : compile model = .ok matcher)
include keyed compiles

/-- An expression over requests and the rules `p` is for these rules: no policy type has the name of
requests. -/
theorem type_eq (parsed : parse model.matcher = .ok expr) {names : List String}
    (declared : model.policies.find? "p" = some names)
    (mentioned : ∀ scope ∈ expr.scopes, scope = "r" ∨ scope = "p")
    (once : (expr.scopes.filter (· == "p")).eraseDups = ["p"]) : matcher.type = "p" := by
  obtain ⟨other, read, selected, -⟩ := compile_eq_ok.1 compiles
  rw [parsed] at read
  cases read
  exact Except.ok.inj (selected.symm.trans (typeOf_eq_ok keyed declared mentioned once))

theorem type_ofRoles (roles : model.OfRoles) : matcher.type = "p" :=
  type_eq keyed compiles (roles.matcher.trans Expr.parse_roleMatcher) roles.policy (by decide) (by decide)

theorem type_ofDomains {more : List String} (domains : model.OfDomains more) : matcher.type = "p" :=
  type_eq keyed compiles (domains.matcher.trans Expr.parse_domainMatcher) domains.policy (by decide)
    (by decide)

variable {relations : Catalogue RoleRelation} {relation : RoleRelation}
  (known : relations.find? "g" = some relation)
include known

theorem eval_ofRoles (roles : model.OfRoles) (subject object action role object' action' : String) :
    matcher.eval ⟨[subject, object, action], [role, object', action'], relations⟩ =
      .ok (relation.reaches subject role none && object == object' && action == action') := by
  have type := type_ofRoles keyed compiles roles
  have fits : Scope.Fits ⟨[subject, object, action], [role, object', action'], relations⟩ model
      matcher.type ["sub", "obj", "act"] := ⟨type ▸ roles.policy, by rw [roles.request]; rfl, rfl⟩
  apply eval_eq_ok compiles (roles.matcher.trans Expr.parse_roleMatcher) fits
  rw [type]
  exact Expr.decision_ofRoles known roles rfl rfl

theorem eval_ofDomains {more rest : List String} (domains : model.OfDomains more)
    (long : rest.length = more.length)
    (subject domain object action role domain' object' action' : String) :
    matcher.eval ⟨[subject, domain, object, action], role :: domain' :: object' :: action' :: rest,
        relations⟩ =
      .ok (relation.reaches subject role (some domain) && domain == domain' && object == object' &&
        action == action') := by
  have type := type_ofDomains keyed compiles domains
  have fits : Scope.Fits ⟨[subject, domain, object, action],
      role :: domain' :: object' :: action' :: rest, relations⟩ model matcher.type
      ("sub" :: "dom" :: "obj" :: "act" :: more) :=
    ⟨type ▸ domains.policy, by rw [domains.request]; rfl, by simp [long]⟩
  apply eval_eq_ok compiles (domains.matcher.trans Expr.parse_domainMatcher) fits
  rw [type]
  exact Expr.decision_ofDomains known domains rfl rfl

end Matcher

namespace Office

/-- The text of a model with roles that hold everywhere. -/
def text : String :=
  "r = sub, obj, act\np = sub, obj, act\ng = _, _\ne = some(where (p.eft == allow))\nm = g(r.sub, p.sub) && r.obj == p.obj && r.act == p.act"

/-- The model itself. -/
def model : Model where
  request := ["sub", "obj", "act"]
  policies := .ofList [("p", ["sub", "obj", "act"])]
  roles := .ofList [("g", .global)]
  effect := "some(where (p.eft == allow))"
  matcher := roleMatcher

/-- The matcher of the model. -/
def matcher : Matcher where
  root := .and (.and (.linked "g" (.requestField 0) (.policyField 0))
    (.equal (.requestField 1) (.policyField 1))) (.equal (.requestField 2) (.policyField 2))
  type := "p"

/-- The enforcer that is made of the model. -/
def enforcer : Enforcer where
  state := .ofModel ⟨model, matcher, ⟨.allowOverride, false⟩⟩

theorem ofText_text : Model.ofText text = .ok model := by cbv

theorem ofRoles_model : model.OfRoles := ⟨rfl, rfl, rfl, rfl⟩

theorem ofModel_model [Regex.Engine] : Enforcer.ofModel model = .ok enforcer := by
  have matched : Matcher.compile model = .ok matcher :=
    Matcher.compile_eq_ok.2 ⟨_, Expr.parse_roleMatcher, by decide, rfl⟩
  have compiled : CompiledModel.compile model = .ok ⟨model, matcher, ⟨.allowOverride, false⟩⟩ :=
    CompiledModel.compile_eq_ok.2 ⟨rfl, matched, by decide +kernel⟩
  exact Result.map_eq_ok.2 ⟨_, compiled, rfl⟩

end Office

namespace Branches

/-- The text of a model with roles of domains. -/
def text : String :=
  "r = sub, dom, obj, act\np = sub, dom, obj, act\ng = _, _, _\ne = some(where (p.eft == allow))\nm = g(r.sub, p.sub, r.dom) && r.dom == p.dom && r.obj == p.obj && r.act == p.act"

/-- The model itself. -/
def model : Model where
  request := ["sub", "dom", "obj", "act"]
  policies := .ofList [("p", ["sub", "dom", "obj", "act"])]
  roles := .ofList [("g", .perDomain)]
  effect := "some(where (p.eft == allow))"
  matcher := domainMatcher

/-- The matcher of the model. -/
def matcher : Matcher where
  root := .and (.and (.and (.linkedIn "g" (.requestField 0) (.policyField 0) (.requestField 1))
    (.equal (.requestField 1) (.policyField 1))) (.equal (.requestField 2) (.policyField 2)))
    (.equal (.requestField 3) (.policyField 3))
  type := "p"

/-- The enforcer that is made of the model. -/
def enforcer : Enforcer where
  state := .ofModel ⟨model, matcher, ⟨.allowOverride, false⟩⟩

set_option maxRecDepth 2000 in
theorem ofText_text : Model.ofText text = .ok model := by cbv

theorem ofDomains_model : model.OfDomains [] := ⟨rfl, rfl, rfl, rfl⟩

theorem ofModel_model [Regex.Engine] : Enforcer.ofModel model = .ok enforcer := by
  have matched : Matcher.compile model = .ok matcher :=
    Matcher.compile_eq_ok.2 ⟨_, Expr.parse_domainMatcher, by decide, rfl⟩
  have compiled : CompiledModel.compile model = .ok ⟨model, matcher, ⟨.allowOverride, false⟩⟩ :=
    CompiledModel.compile_eq_ok.2 ⟨rfl, matched, by decide +kernel⟩
  exact Result.map_eq_ok.2 ⟨_, compiled, rfl⟩

end Branches
end AccessControl
