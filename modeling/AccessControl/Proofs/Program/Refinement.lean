import AccessControl.Proofs.Enforcer.Commands
import AccessControl.Proofs.Program.Opening
/-!
Runs of the program, one after another. Each of them reads the model, opens the storage and loads the
policy anew, and saves it only if its command has changed it. What they show is what one enforcer answers
that has loaded the policy once and is never saved; and the rules that the next run finds are its rules.
-/
namespace AccessControl

/-- The rules that a state has taken are of types that its model declares. -/
theorem State.Sound.declared_of_addAll {state after : State} (sound : state.Sound) {rules : List Rule}
    (done : state.addAll rules = .ok after) : ∀ rule ∈ rules,
      rule.type ∈ state.compiled.model.policies.names ∨ rule.type ∈ state.compiled.model.roles.names := by
  intro rule inside
  obtain ⟨table, declared, -⟩ := sound.valid_of_addAll done rule inside
  rw [Store.find?_ofModel, Option.or_eq_some_iff] at declared
  rcases declared with role | ⟨-, policy⟩
  · obtain ⟨shape, shaped, -⟩ := Option.map_eq_some_iff.1 role
    exact .inr ((Catalogue.mem_names_iff _ _).2 ⟨shape, shaped⟩)
  · obtain ⟨names, named, -⟩ := Option.map_eq_some_iff.1 policy
    exact .inl ((Catalogue.mem_names_iff _ _).2 ⟨names, named⟩)

/-- No text is a model and also a policy whose rules fit a model. -/
theorem Model.ofText_policy {text : String} {rules : RuleSet} (read : PolicyText.read text = .ok rules)
    {compiled : CompiledModel} (keyed : compiled.model.Keyed) {state : State}
    (built : State.ofRules compiled rules = .ok state) (model : Model) : ofText text ≠ .ok model := by
  intro parsed
  obtain ⟨rule, inside, letter⟩ := exists_rule_of_request parsed read
  have declared := (State.sound_ofModel keyed).declared_of_addAll built rule inside
  have letters := (letters_of_type (declared.imp (keyed.policy _) (keyed.role _))).2
  exact absurd (letters 'r' (List.mem_of_head? letter)) (by decide)

namespace Program
variable {settings : Settings} {connection? : Option Connection} {model : Model} {storage : Storage}
  {files opened saved : FileTree} {loaded kept : Enforcer}

/-- The model is read as before when a policy is saved where one could be loaded. -/
theorem model_save [Regex.Engine] {path : String} (read : Program.model files path = .ok model)
    (loads : Enforcer.withStorage model storage files = .ok loaded) {rules : RuleSet}
    (done : storage.save files rules = .ok saved) : Program.model saved path = .ok model := by
  cases storage with
  | text place =>
    obtain ⟨there, -, leads, free, rfl⟩ := Storage.save_text done
    refine model_put read free ?_ _
    intro text found
    obtain ⟨source, -, parsed⟩ := model_eq_ok.1 read
    obtain ⟨compiled, stored, state, compiles, load, built, -⟩ := Enforcer.withStorage_eq_ok.1 loads
    rw [Storage.load_text] at load
    obtain ⟨text', content, policy⟩ := Result.bind_eq_ok.1 load
    obtain ⟨there', leads', found'⟩ := FileTree.content_eq_ok.1
      (FileTree.read_eq_ok.1 (Result.mapError_eq_ok.1 content))
    cases leads.symm.trans leads'
    cases found.symm.trans found'
    refine Model.ofText_policy policy ?_ built model
    rw [(CompiledModel.compile_eq_ok.1 compiles).1]
    exact Model.keyed_ofText parsed
  | database place =>
    obtain ⟨there, before, table, -, found, rfl⟩ := Storage.save_database done
    exact model_put read (by simp [found]) (by simp [found]) _

theorem backend_of_database {path : String}
    (opens : openStorage settings connection? files = .ok (.database path, opened)) :
    settings.backend = .database := by
  rcases openStorage_cases opens with ⟨-, other, -⟩ | ⟨connection, provided, backend, -⟩
  · cases other
  · exact backend

variable [Regex.Engine]

/-- The files let an enforcer be loaded that mirrors one that is kept. -/
structure Session (settings : Settings) (connection? : Option Connection) (model : Model) (storage : Storage)
    (files opened : FileTree) (loaded kept : Enforcer) : Prop where
  read : Program.model files settings.modelPath = .ok model
  opens : openStorage settings connection? files = .ok (storage, opened)
  lasting : settings.backend = .database → ∀ connection ∈ connection?, connection.path?.isSome = true
  writable : settings.backend = .database → ∀ connection ∈ connection?, connection.isWritable = true
  fits : settings.backend = .database → model.FitsTable
  loads : Enforcer.withStorage model storage opened = .ok loaded
  mirrors : Enforcer.Mirrors storage loaded kept

namespace Session

variable (session : Session settings connection? model storage files opened loaded kept)
include session

theorem run_of_error {command : Command} {error : Error} (failed : command.perform loaded = .error error) :
    command.run model storage opened = .error error := by
  unfold Command.run
  rw [session.loads]
  change command.perform loaded >>= _ = _
  rw [failed]
  rfl

theorem run_of_ok {command : Command} {reply : Reply} {after : Enforcer}
    (done : command.perform loaded = .ok (reply, after)) : command.run model storage opened =
      if reply.changed then do return (reply.output, ← after.savePolicy opened)
      else .ok (reply.output, opened) := by
  unfold Command.run
  rw [session.loads]
  change command.perform loaded >>= _ = _
  rw [done]
  rfl

/-- A storage that has been opened is opened again without effect. -/
theorem reopened {other : Enforcer} (mirrors : Enforcer.Mirrors storage loaded other) :
    Session settings connection? model storage opened opened loaded other where
  read := model_open session.lasting session.opens session.read
  opens := (stands_of_open session.opens).opens session.lasting
  lasting := session.lasting
  writable := session.writable
  fits := session.fits
  loads := session.loads
  mirrors := mirrors

/-- A changed policy can be saved, and the next run starts from what was saved. -/
theorem exists_save {after kept' : Enforcer} (model' : after.model = model)
    (mirrors : Enforcer.Mirrors storage after kept') :
    ∃ saved stored, after.savePolicy opened = .ok saved ∧
      Session settings connection? model storage saved saved stored kept' := by
  obtain ⟨_, _, _, -, load, -, -⟩ := Enforcer.withStorage_eq_ok.1 session.loads
  have narrow : ∀ path, storage = .database path →
      ∀ rule ∈ after.rules.toList, rule.fields.length ≤ tableColumns := by
    rintro path rfl
    have fits := session.fits (backend_of_database session.opens)
    rw [← model'] at fits
    exact mirrors.settled.orderly.sound.narrow fits
  obtain ⟨saved, done, loads⟩ := mirrors.settled.exists_savePolicy mirrors.storage
    (Storage.available_of_load load) narrow
  obtain ⟨stored, made, settled, same⟩ := mirrors.settled.exists_withStorage loads
  rw [model'] at made
  have put : storage.save opened after.rules = .ok saved := by
    rw [← Enforcer.savePolicy_eq mirrors.storage, done]
  have read := model_open session.lasting session.opens session.read
  exact ⟨saved, stored, done, {
    read := model_save read session.loads put
    opens := ((stands_of_open session.opens).save put).opens session.lasting
    lasting := session.lasting
    writable := session.writable
    fits := session.fits
    loads := made
    mirrors := ⟨Enforcer.storage_of_withStorage made, settled, mirrors.settled', same.trans mirrors.same⟩ }⟩

/-- A run of a command comes to the same as the call on the enforcer that is kept, and leaves files from
which an enforcer is loaded that mirrors it again. Unless the call has changed the rules, the files stay as
they were when the storage was opened. -/
theorem run (command : Command) :
    (runCommand command settings connection? files).1 = (command.call kept).1 ∧
      ((command.call kept).2.rules = kept.rules →
        (runCommand command settings connection? files).2 = opened) ∧
      ∃ stored, Session settings connection? model storage (runCommand command settings connection? files).2
        (runCommand command settings connection? files).2 stored (command.call kept).2 := by
  rw [runCommand_eq session.lasting session.writable session.opens session.read, Command.outcome_call,
    Command.rules_call]
  have agree := session.mirrors.perform command
  cases done : command.perform loaded with
  | error error =>
    rw [done] at agree
    have settle : Command.settle kept (command.perform kept) = (.failed error, kept) := by
      rw [agree.of_error]
      rfl
    rw [session.run_of_error done, settle]
    refine ⟨rfl, fun _ => rfl, loaded, session.reopened (.call ?_)⟩
    rw [settle]
    exact session.mirrors
  | ok result =>
    obtain ⟨reply, after⟩ := result
    rw [done] at agree
    obtain ⟨kept', performed, mirrors⟩ := agree.of_ok
    have settle : Command.settle kept (command.perform kept) = (.done reply.output, kept') := by
      rw [performed]
      rfl
    have changed := Command.changed_iff session.mirrors.settled' performed
    have model' : after.model = loaded.model := Command.model_eq done
    rw [session.run_of_ok done, settle]
    cases told : reply.changed with
    | false =>
      have unchanged : kept'.rules = kept.rules := by simpa [told] using changed
      have same : loaded.state.Matches kept'.state := by
        apply session.mirrors.settled.matches_of_rules mirrors.settled'
        · rw [← model']
          exact congrArg CompiledModel.model mirrors.same.compiled
        · rw [session.mirrors.rules_eq, unchanged]
      refine ⟨rfl, fun _ => rfl, loaded, session.reopened (.call ?_)⟩
      rw [settle]
      exact ⟨session.mirrors.storage, session.mirrors.settled, mirrors.settled', same⟩
    | true =>
      obtain ⟨saved, stored, put, later⟩ := session.exists_save
        (model'.trans (Enforcer.model_of_withStorage session.loads)) mirrors
      rw [put]
      refine ⟨rfl, fun unchanged => absurd unchanged (changed.1 told), stored, ?_⟩
      exact { later with mirrors := .call (settle ▸ later.mirrors) }

end Session

/-- The outcomes of some commands that are run one after another, each on the files that the one before it
has left, and the files in the end. -/
def runEach (settings : Settings) (connection? : Option Connection) (files : FileTree) :
    List Command → List Outcome × FileTree
  | [] => ([], files)
  | command :: rest =>
    let (outcome, after) := runCommand command settings connection? files
    let (later, last) := runEach settings connection? after rest
    (outcome :: later, last)

theorem Session.runEach (session : Session settings connection? model storage files opened loaded kept)
    (commands : List Command) :
    (runEach settings connection? files commands).1 = (Command.callEach kept commands).1 ∧
      ∃ opened loaded, Session settings connection? model storage
        (runEach settings connection? files commands).2 opened loaded (Command.callEach kept commands).2 := by
  induction commands generalizing files opened loaded kept with
  | nil => exact ⟨rfl, opened, loaded, session⟩
  | cons command rest ih =>
    obtain ⟨outcome, -, stored, later⟩ := session.run command
    obtain ⟨outcomes, last⟩ := ih later
    exact ⟨List.cons_eq_cons.2 ⟨outcome, outcomes⟩, last⟩

/-- What the next run finds in the files: the model, and a policy with the rules of an enforcer in their
order. A command that leaves the rules of the enforcer as they are, as every command does that fails or
only asks, leaves the files as they were when the storage was opened. -/
structure Carries (settings : Settings) (connection? : Option Connection) (model : Model) (storage : Storage)
    (files : FileTree) (kept : Enforcer) : Prop where
  read : Program.model files settings.modelPath = .ok model
  loads : ∃ opened next, openStorage settings connection? files = .ok (storage, opened) ∧
    Enforcer.withStorage model storage opened = .ok next ∧ next.rules = kept.rules ∧
    ∀ command : Command, (command.call kept).2.rules = kept.rules →
      (runCommand command settings connection? files).2 = opened

theorem Session.carries (session : Session settings connection? model storage files opened loaded kept) :
    Carries settings connection? model storage files kept :=
  ⟨session.read, opened, loaded, session.opens, session.loads, session.mirrors.rules_eq,
    fun command => (session.run command).2.1⟩

/-- Wherever a model and a policy are loaded from, commands that are run one after another have the outcomes
that calls have on one enforcer, which has been loaded before the first of them and is never saved; and
after each of them the files carry the policy of that enforcer. A database must be one that outlasts a run, may
be changed, and is wide enough for the rules of the model. -/
theorem runEach_refines (read : Program.model files settings.modelPath = .ok model)
    (opens : openStorage settings connection? files = .ok (storage, opened))
    (lasting : settings.backend = .database →
      ∀ connection ∈ connection?, connection.path?.isSome = true)
    (writable : settings.backend = .database →
      ∀ connection ∈ connection?, connection.isWritable = true)
    (fits : settings.backend = .database → model.FitsTable)
    (loads : Enforcer.withStorage model storage opened = .ok loaded) (commands : List Command) :
    (runEach settings connection? files commands).1 = (Command.callEach loaded commands).1 ∧
      Carries settings connection? model storage (runEach settings connection? files commands).2
        (Command.callEach loaded commands).2 := by
  obtain ⟨text, -, parsed⟩ := model_eq_ok.1 read
  have settled := Enforcer.settled_of_reachable (Enforcer.reachable_of_withStorage parsed loads)
  have kept : loaded.storage? = some storage := Enforcer.storage_of_withStorage loads
  have session : Session settings connection? model storage files opened loaded loaded :=
    ⟨read, opens, lasting, writable, fits, loads, kept, settled, settled, rfl, fun _ => rfl⟩
  obtain ⟨outcomes, _, _, last⟩ := session.runEach commands
  exact ⟨outcomes, last.carries⟩

end Program
namespace Tenants

/-- The files of the model and of a policy in which a rule stands twice. -/
def files : FileTree where
  entries := [(["model"], .file (.text text)),
    (["rules"], .file (.text "p, admin, one, allow\ng, alice, admin, one\np, admin, one, allow\n"))]

/-- Commands that change the policy, that find nothing to change, that ask, and one that fails. -/
def commands : List Command :=
  [.addPolicy "p" ["admin", "one", "allow"], .addPolicy "p" ["bob", "two", "never"],
    .addRole "bob" "admin" (some "two"), .enforce ["admin", "one"] true false,
    .removePolicy "p" ["admin", "two", "allow"], .deleteRole "alice" "admin" (some "one"),
    .enforce ["carol", "one"] true false, .roles "bob" (some "two") false, .list none]

/-- What the commands come to, whether or not the first of them finds its rule in the policy already. -/
def outcomes : List Outcome :=
  [.done [], .failed (.effectValue "never"), .done [], .done ["allow", "  p, admin, one, allow"], .done [],
    .done [], .done ["deny"], .done ["admin"], .done ["p, admin, one, allow", "g, bob, admin, two"]]

/-- Settings for a policy in a text. -/
def textSettings : Settings := { modelPath := "model", policyPath := "rules" }

/-- Settings for a policy in a database. -/
def databaseSettings : Settings := { modelPath := "model", backend := .database }

/-- A connection to a database that is made when it is opened for the first time. -/
def connection : Connection := ⟨some "table", .make, false⟩

/-- The files after that. -/
def openedFiles : FileTree :=
  (files.put ["table"] (.file Connection.emptyContent)).put ["table"] (.file (.database {}))

end Tenants

namespace Program

/-- The policy is kept in a text, and in a database that the first of the runs makes. -/
theorem runEach_refines_of_tenants :
    ((runEach Tenants.textSettings none Tenants.files Tenants.commands).1 = Tenants.outcomes ∧
      ∃ loaded, Enforcer.withStorage Tenants.model (.text "rules") Tenants.files = .ok loaded ∧
        Carries Tenants.textSettings none Tenants.model (.text "rules")
          (runEach Tenants.textSettings none Tenants.files Tenants.commands).2
          (Command.callEach loaded Tenants.commands).2) ∧
    (runEach Tenants.databaseSettings (some Tenants.connection) Tenants.files Tenants.commands).1 =
        Tenants.outcomes ∧
      ∃ loaded, Enforcer.withStorage Tenants.model (.database "/table") Tenants.openedFiles = .ok loaded ∧
        Carries Tenants.databaseSettings (some Tenants.connection) Tenants.model (.database "/table")
          (runEach Tenants.databaseSettings (some Tenants.connection) Tenants.files Tenants.commands).2
          (Command.callEach loaded Tenants.commands).2 := by
  have read : Program.model Tenants.files "model" = .ok Tenants.model :=
    model_eq_ok.2 ⟨Tenants.text, by decide +kernel, Tenants.ofText_text⟩
  constructor
  · have stored : (Storage.text "rules").load Tenants.files = .ok ⟨[⟨"p", ["admin", "one", "allow"]⟩,
        ⟨"p", ["admin", "one", "allow"]⟩], [⟨"g", ["alice", "admin", "one"]⟩]⟩ := by decide +kernel
    have loads := Enforcer.withStorage_eq_ok.2 ⟨_, _, _, Tenants.compiled_model, stored, rfl, rfl⟩
    have opens : openStorage Tenants.textSettings none Tenants.files = .ok (.text "rules", Tenants.files) := rfl
    have inText : Tenants.textSettings.backend ≠ .database := by decide
    obtain ⟨outcomes, carries⟩ := runEach_refines read opens (absurd · inText) (absurd · inText) (absurd · inText)
      loads Tenants.commands
    refine ⟨outcomes.trans ?_, _, loads, carries⟩
    decide +kernel
  · have opens : openStorage Tenants.databaseSettings (some Tenants.connection) Tenants.files =
        .ok (.database "/table", Tenants.openedFiles) := by decide +kernel
    have found : Storage.databaseAt Tenants.openedFiles "/table" = .ok {} := by decide +kernel
    have stored := Storage.load_rows found
    rw [PolicyTable.rows_of_pairwise .nil] at stored
    have loads := Enforcer.withStorage_eq_ok.2 ⟨_, _, _, Tenants.compiled_model, stored, rfl, rfl⟩
    have fits : Tenants.model.FitsTable := by
      intro type names found
      change (Catalogue.empty.insert "p" ["sub", "dom", "eft"]).find? type = some names at found
      by_cases same : type = "p"
      · rw [same, Catalogue.find?_insert_self] at found
        cases found
        decide
      · rw [Catalogue.find?_insert_other _ _ same] at found
        cases found
    obtain ⟨outcomes, carries⟩ := runEach_refines read opens (by decide) (by decide) (fun _ => fits)
      loads Tenants.commands
    refine ⟨outcomes.trans ?_, _, loads, carries⟩
    decide +kernel

end Program
end AccessControl
