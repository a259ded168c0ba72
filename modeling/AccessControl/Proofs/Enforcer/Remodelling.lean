import AccessControl.Proofs.Enforcer.Mutations
/-!
Models that take the place of others. The present rules are taken over if all of them fit the new model,
and the enforcer is then the one that a new enforcer of that model would be if the rules had been added to
it; if the model does not compile or a rule does not fit it, nothing changes. The two models need not have
any type in common, so that the rule set is told from the rules of each type alone, whatever types there
are without rules.
-/
namespace AccessControl

namespace Catalogue
variable {α : Type}

/-- The entries whose values are to be kept. -/
def filter (keep : α → Bool) (catalogue : Catalogue α) : Catalogue α where
  entries := catalogue.entries.filter fun entry => keep entry.2
  ordered := catalogue.ordered.filter _

theorem find?_filter (keep : α → Bool) (catalogue : Catalogue α) (name : String) :
    (catalogue.filter keep).find? name = (catalogue.find? name).filter keep := by
  ext value
  rw [find?_eq_some_iff, Option.filter_eq_some_iff, find?_eq_some_iff]
  exact List.mem_filter

end Catalogue

namespace Store

/-- The types that have rules, and their rules. -/
def occupied (store : Store) : Catalogue (List (List String)) :=
  (store.tables.map fun _ table => table.rules).filter (!·.isEmpty)

theorem find?_occupied (store : Store) (type : String) :
    store.occupied.find? type = if store.rules type = [] then none else some (store.rules type) := by
  unfold occupied rules
  rw [Catalogue.find?_filter, Catalogue.find?_map]
  cases store.tables.find? type with
  | none => rfl
  | some table =>
    change Option.filter _ (some table.rules) = if table.rules = [] then none else some table.rules
    cases table.rules <;> simp

/-- Types without rules do not show in the rule set. -/
theorem ruleSet_occupied (store : Store) :
    store.ruleSet = RuleSet.ofList (store.occupied.entries.flatMap
      fun (type, rules) => rules.map (Rule.mk type)) := by
  have dropped (entries : List (String × List (List String))) :
      entries.flatMap (fun (type, rules) => rules.map (Rule.mk type)) =
        (entries.filter (!·.2.isEmpty)).flatMap fun (type, rules) => rules.map (Rule.mk type) := by
    induction entries with
    | nil => rfl
    | cons entry rest ih =>
      obtain ⟨type, rules⟩ := entry
      cases rules with
      | nil => exact ih
      | cons first later => exact congrArg (List.map (Rule.mk type) (first :: later) ++ ·) ih
  rw [ruleSet_eq, dropped]
  rfl

/-- Stores with the same rules of each type have one rule set, whichever types they know. -/
theorem ruleSet_congr {one other : Store} (same : ∀ type, one.rules type = other.rules type) :
    one.ruleSet = other.ruleSet := by
  have occupied : one.occupied = other.occupied := by
    apply Catalogue.eq_of_find?
    intro type
    rw [find?_occupied, find?_occupied, same]
  rw [ruleSet_occupied, ruleSet_occupied, occupied]

end Store

/-- Whether a rule is of a type that a model declares and has what the model declares for it. -/
inductive Rule.Fits (model : Model) (rule : Rule) : Prop
  | policy {names : List String} (declared : model.policies.find? rule.type = some names)
      (long : rule.fields.length = names.length)
      (effect : ∀ index, names.idxOf? Model.effectField = some index →
        rule.fields[index]? = some "allow" ∨ rule.fields[index]? = some "deny") : Fits model rule
  | role {shape : RoleShape} (declared : model.roles.find? rule.type = some shape)
      (long : rule.fields.length = shape.arity) : Fits model rule

/-- Rules that fit are those that pass the check of their type, provided that no field breaks a line. -/
theorem Rule.fits_iff {model : Model} (keyed : model.Keyed) {rule : Rule}
    (unbroken : PolicyText.breakingField? rule.fields = none) :
    rule.Fits model ↔ ∃ table, (Store.ofModel model).tables.find? rule.type = some table ∧
      table.validate rule.type rule.fields = .ok () := by
  rw [Store.find?_ofModel]
  constructor
  · rintro (⟨declared, long, effect⟩ | ⟨declared, long⟩)
    · have listed := (Catalogue.mem_names_iff _ _).2 ⟨_, declared⟩
      rw [keyed.find?_roles_of_policy listed, declared]
      refine ⟨_, rfl, RuleTable.validate_eq_ok.2 ⟨long, unbroken, ?_⟩⟩
      intro word stated
      obtain ⟨index, place, found⟩ := Option.bind_eq_some_iff.1 stated
      change model.effectIndex? rule.type = some index at place
      rw [Model.effectIndex?, Model.policyIndex?_of_find? declared] at place
      rcases effect index place with allow | deny
      · cases found.symm.trans allow
        rfl
      · cases found.symm.trans deny
        rfl
    · rw [declared]
      refine ⟨_, rfl, RuleTable.validate_eq_ok.2 ⟨long, unbroken, ?_⟩⟩
      intro word stated
      cases stated
  · rintro ⟨table, declared, valid⟩
    obtain ⟨long, -, effect⟩ := RuleTable.validate_eq_ok.1 valid
    rcases Option.or_eq_some_iff.1 declared with role | ⟨-, policy⟩
    · obtain ⟨shape, shaped, rfl⟩ := Option.map_eq_some_iff.1 role
      exact .role shaped long
    · obtain ⟨names, named, rfl⟩ := Option.map_eq_some_iff.1 policy
      refine .policy named long ?_
      intro index place
      have short : index < rule.fields.length := by
        rw [long]
        exact (List.idxOf?_eq_some_iff.1 place).1
      have word : rule.fields[index]? = some rule.fields[index] := List.getElem?_eq_getElem short
      have stated : (Effect.ofText? rule.fields[index]).isSome := by
        apply effect
        change (model.effectIndex? rule.type).bind _ = _
        rw [Model.effectIndex?, Model.policyIndex?_of_find? named, place]
        exact word
      rw [word]
      exact (Effect.eq_of_ofText?_isSome stated).imp (congrArg some) (congrArg some)

namespace Enforcer
variable [Regex.Engine] {enforcer : Enforcer} {model : Model}

/-- Whether a model can take the place of an enforcer's own: its matcher and its effect compile, and all
present rules fit it. -/
structure Accepts (enforcer : Enforcer) (model : Model) : Prop where
  compiles : ∃ matcher effect, Matcher.compile model = .ok matcher ∧
    EffectRule.ofText? matcher.type model.effect = some effect
  fit : ∀ rule ∈ enforcer.rules.toList, rule.Fits model

/-- What it means that a model has taken the place of an enforcer's own. -/
structure Remodelled (enforcer : Enforcer) (model : Model) (after : Enforcer) : Prop where
  taken : after.model = model
  rules : after.rules = enforcer.rules
  /-- The enforcer is what a new one becomes when the rules are added to it in their order. -/
  rebuilt : ∃ fresh, ofModel model = .ok fresh ∧
    let added := fresh.run (enforcer.rules.toList.map fun rule => .add rule.type rule.fields)
    after = { added with storage? := enforcer.storage? } ∧ after.Alike added ∧
      ∀ role domain?, after.users role domain? = added.users role domain?

/-- Rules that are added by one operation each come to the state that they come to at once. -/
theorem run_add {state : State} {rules : List Rule} (done : enforcer.state.addAll rules = .ok state) :
    enforcer.run (rules.map fun rule => .add rule.type rule.fields) = { enforcer with state } := by
  induction rules generalizing enforcer with
  | nil =>
    cases done
    rfl
  | cons rule rest ih =>
    obtain ⟨⟨added, middle⟩, one, later⟩ := Result.bind_eq_ok.1 done
    have first : enforcer.perform (.add rule.type rule.fields) = { enforcer with state := middle } := by
      change enforcer.after (enforcer.update (·.addRule rule.type rule.fields)) = _
      rw [update_eq, one]
      rfl
    change run (enforcer.perform (.add rule.type rule.fields)) (rest.map _) = _
    rw [first]
    exact ih later

/-- An enforcer accepts a model just when the state of its rules can be built for the model. -/
theorem accepts_iff (sound : enforcer.state.Sound) (keyed : model.Keyed) :
    enforcer.Accepts model ↔ ∃ compiled state, CompiledModel.compile model = .ok compiled ∧
      State.ofRules compiled enforcer.rules = .ok state := by
  have fits : (∀ rule ∈ enforcer.rules.toList, rule.Fits model) ↔
      ∀ rule ∈ enforcer.rules.toList, ∃ table,
        (Store.ofModel model).tables.find? rule.type = some table ∧
          table.validate rule.type rule.fields = .ok () := by
    refine forall₂_congr fun rule inside => Rule.fits_iff keyed ?_
    obtain ⟨table, -, valid⟩ := sound.exists_table (Store.mem_ruleSet.1 inside)
    exact (RuleTable.validate_eq_ok.1 valid).2.1
  constructor
  · rintro ⟨⟨matcher, effect, matched, read⟩, fit⟩
    have compiles : CompiledModel.compile model = .ok ⟨model, matcher, effect⟩ :=
      CompiledModel.compile_eq_ok.2 ⟨rfl, matched, read⟩
    let compiled : CompiledModel := ⟨model, matcher, effect⟩
    obtain ⟨state, built, -⟩ : ∃ state, State.ofRules compiled enforcer.rules = .ok state ∧ _ :=
      sound.exists_ofRules keyed (fits.1 fit)
    exact ⟨compiled, state, compiles, built⟩
  · rintro ⟨compiled, state, compiles, built⟩
    obtain ⟨rfl, matched, read⟩ := CompiledModel.compile_eq_ok.1 compiles
    refine ⟨⟨compiled.matcher, compiled.effect, matched, read⟩, fits.2 ?_⟩
    exact (State.sound_ofModel keyed).valid_of_addAll built

/-- Where an enforcer keeps its rules does not show in its answers. -/
theorem alike_withStorage (enforcer : Enforcer) (storage? : Option Storage) :
    Alike { enforcer with storage? } enforcer where
  enforce _ := rfl
  get _ := rfl
  filtered _ _ _ := rfl
  has _ _ := rfl
  roles _ _ := rfl
  implicitRoles _ _ := rfl
  hasRole _ _ _ := rfl
  permissions _ := rfl
  implicitPermissions _ _ := rfl
  users _ _ := .rfl

/-- Building the state of the present rules for another model leaves them as they are. -/
theorem remodelled_of_ofRules (sound : enforcer.state.Sound) (keyed : model.Keyed)
    {compiled : CompiledModel} {state : State} (compiles : CompiledModel.compile model = .ok compiled)
    (built : State.ofRules compiled enforcer.rules = .ok state) :
    enforcer.Remodelled model { enforcer with state, patterns := .empty } := by
  obtain ⟨rfl, -, -⟩ := CompiledModel.compile_eq_ok.1 compiles
  have valid := (State.sound_ofModel keyed).valid_of_addAll built
  obtain ⟨_, built', rules⟩ := sound.exists_ofRules keyed valid
  cases built.symm.trans built'
  let fresh : Enforcer := { state := .ofModel compiled }
  have run : fresh.run _ = { fresh with state } := run_add built
  refine ⟨?_, Store.ruleSet_congr rules, fresh, ?_, ?_⟩
  · exact congrArg CompiledModel.model (State.Leads.addAll .refl built).compiled_eq
  · rw [ofModel, compiles]
    rfl
  · rw [run]
    exact ⟨rfl, alike_withStorage { fresh with state } enforcer.storage?, fun _ _ => rfl⟩

theorem loadModel_eq (enforcer : Enforcer) (model : Model) :
    enforcer.loadModel model = CompiledModel.compile model >>= fun compiled =>
      (State.ofRules compiled enforcer.rules).map fun state =>
        { enforcer with state, patterns := .empty } := rfl

theorem loadModel_eq_ok {after : Enforcer} : enforcer.loadModel model = .ok after ↔
    ∃ compiled state, CompiledModel.compile model = .ok compiled ∧
      State.ofRules compiled enforcer.rules = .ok state ∧
      after = { enforcer with state, patterns := .empty } := by
  rw [loadModel_eq, Result.bind_eq_ok]
  constructor
  · rintro ⟨compiled, compiles, rest⟩
    obtain ⟨state, built, rfl⟩ := Result.map_eq_ok.1 rest
    exact ⟨compiled, state, compiles, built, rfl⟩
  · rintro ⟨compiled, state, compiles, built, rfl⟩
    exact ⟨compiled, compiles, Result.map_eq_ok.2 ⟨state, built, rfl⟩⟩

/-- A model that is put in place step by step is seen as one that is loaded at once. -/
theorem run_putModel (enforcer : Enforcer) (model : Model) : (putModel model).run enforcer =
    ((enforcer.loadModel model).map fun _ => ⟨⟩, enforcer.orKeep (enforcer.loadModel model)) := by
  rw [loadModel_eq]
  unfold putModel
  cases CompiledModel.compile model with
  | error error => rfl
  | ok compiled =>
    have outcome : (State.rebuild compiled).outcome enforcer.state =
        (State.ofRules compiled enforcer.rules).map fun state => (PUnit.unit, state) := by
      unfold State.rebuild
      rw [Action.outcome_get_bind, Action.outcome_bind, Action.outcome_lift]
      change Except.map _ (State.ofRules compiled enforcer.rules) >>= _ = _
      cases State.ofRules compiled enforcer.rules <;> rfl
    have changed := run_onCopy (State.rebuild compiled) enforcer
    rw [update_eq, outcome] at changed
    change ExceptT.bindCont
      (fun _ => (modify ({ · with patterns := .empty }) : Action Enforcer Error PUnit))
      ((State.rebuild compiled).onCopy.run enforcer).1
      ((State.rebuild compiled).onCopy.run enforcer).2 =
        (((State.ofRules compiled enforcer.rules).map _).map _,
          enforcer.orKeep ((State.ofRules compiled enforcer.rules).map _))
    rw [changed]
    cases State.ofRules compiled enforcer.rules <;> rfl

/-- A model takes the place of an enforcer's own just when it compiles and all present rules fit it. The
rules are then the same in the same order, and every answer is that of a new enforcer of the model to which
they have been added in this order. Otherwise everything stays as it was: the model, the rules, the links
and the decisions. -/
theorem putModel_preserves (reachable : enforcer.Reachable) {text : String}
    (read : Model.ofText text = .ok model) :
    (putModel model).Ensures enforcer
        (fun _ after => enforcer.Accepts model ∧ enforcer.Remodelled model after)
        (fun _ after => ¬enforcer.Accepts model ∧ after = enforcer) ∧
      (putModel model).run enforcer = ((enforcer.loadModel model).map fun _ => ⟨⟩,
        enforcer.orKeep (enforcer.loadModel model)) ∧
      enforcer.perform (.loadModel text) = ((putModel model).run enforcer).2 := by
  have sound := sound_of_reachable reachable
  have keyed := Model.keyed_ofText read
  have run := run_putModel enforcer model
  refine ⟨?_, run, ?_⟩
  · unfold Action.Ensures
    rw [run]
    cases loaded : enforcer.loadModel model with
    | error error =>
      refine ⟨fun accepts => ?_, rfl⟩
      obtain ⟨compiled, state, compiles, built⟩ := (accepts_iff sound keyed).1 accepts
      have done := loadModel_eq_ok.2 ⟨compiled, state, compiles, built, rfl⟩
      cases loaded.symm.trans done
    | ok after =>
      obtain ⟨compiled, state, compiles, built, rfl⟩ := loadModel_eq_ok.1 loaded
      exact ⟨(accepts_iff sound keyed).2 ⟨compiled, state, compiles, built⟩,
        remodelled_of_ofRules sound keyed compiles built⟩
  · rw [run]
    change enforcer.orKeep (enforcer.readModel text) = _
    unfold readModel
    rw [read]
    rfl

end Enforcer

namespace Tenants

/-- The text of another model: requests name no domain, and there is one more type of rules. -/
def widerText : String :=
  "r = sub\np = sub, dom, eft\np2 = sub\ng = _, _, _\ne = priority(p.eft)\nm = g(r.sub, p.sub, p.dom)"

/-- The other model itself. -/
def wider : Model where
  request := ["sub"]
  policies := .ofList [("p", ["sub", "dom", "eft"]), ("p2", ["sub"])]
  roles := .ofList [("g", .perDomain)]
  effect := "priority(p.eft)"
  matcher := "g(r.sub, p.sub, p.dom)"

theorem ofText_widerText : Model.ofText widerText = .ok wider := by cbv

end Tenants

namespace Enforcer

/-- A model of other types takes over a permission and a link. -/
theorem putModel_preserves_of_tenants :
    (putModel Tenants.wider).Ensures Tenants.assigned
        (fun _ after => Tenants.assigned.Accepts Tenants.wider ∧
          Tenants.assigned.Remodelled Tenants.wider after)
        (fun _ after => ¬Tenants.assigned.Accepts Tenants.wider ∧ after = Tenants.assigned) ∧
      (putModel Tenants.wider).run Tenants.assigned =
        ((Tenants.assigned.loadModel Tenants.wider).map fun _ => ⟨⟩,
          Tenants.assigned.orKeep (Tenants.assigned.loadModel Tenants.wider)) ∧
      Tenants.assigned.perform (.loadModel Tenants.widerText) =
        ((putModel Tenants.wider).run Tenants.assigned).2 := by
  apply putModel_preserves
  · exact Tenants.reachable_assigned
  · exact Tenants.ofText_widerText

end Enforcer
end AccessControl
