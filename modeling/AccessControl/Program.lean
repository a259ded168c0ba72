import AccessControl.Command.Arguments
import AccessControl.Error
import AccessControl.Pattern.Regex.Engine
import AccessControl.Settings
import AccessControl.Storage.Connection
/-!
The program: what a call of it does to the files and what it shows. The settings come first, then the
model, then the storage, and then the command; the first of them that fails ends the run. Only the call as a
whole says how the address of a database is read and which engine tests patterns.
-/
namespace AccessControl

inductive Outcome where
  | done (output : List String)
  | failed (error : Error)
  | unsettled
  | misused
deriving DecidableEq, Repr

namespace Outcome

def status : Outcome → Nat
  | done _ => 0
  | failed _ => 1
  | unsettled => 1
  | misused => 2

def output : Outcome → String
  | done lines => String.join (lines.map (· ++ "\n"))
  | _ => ""

def code? : Outcome → Option String
  | failed error => some error.report.code
  | _ => none

def explanation? : Outcome → Option String
  | done _ => none
  | failed error => some error.report.message
  | unsettled => some "Invalid settings"
  | misused => some "Invalid arguments"

end Outcome

namespace Program

def model (files : FileTree) (path : String) : Except Error Model := do
  (Model.ofText (← (files.read path).mapError (.storage path))).mapError .model

/-- The outcome and the files of a run, the files being the earlier ones if it failed. -/
def conclude (before : FileTree) : Except Error (List String × FileTree) → Outcome × FileTree
  | .ok (output, after) => (.done output, after)
  | .error error => (.failed error, before)

/-- Does something with the database of a connection. A database that was made or got its table when it
was opened stays so even if that fails, and one that may not be changed must come out of it unchanged. -/
def runConnected (connection : Connection) (files : FileTree)
    (action : Storage → FileTree → Except Error (List String × FileTree)) : Outcome × FileTree :=
  match connection.provide files with
  | .error error => (.failed error, files)
  | .ok provided =>
    match connection.openIn provided with
    | .error error => (.failed error, connection.close files provided)
    | .ok (storage, opened) =>
      conclude (connection.close files opened) do
        let (output, after) ← action storage opened
        if connection.isWritable || after == opened then return (output, connection.close files after)
        else .error .database

/-- Does something with the database of a connection, if there is one. -/
def runDatabase (connection? : Option Connection) (files : FileTree)
    (action : Storage → FileTree → Except Error (List String × FileTree)) : Outcome × FileTree :=
  match connection? with
  | none => (.failed .database, files)
  | some connection => runConnected connection files action

/-- Runs a command on the storage that the settings name, a database being reached by the connection. -/
def runCommand [Regex.Engine] (command : Command) (settings : Settings) (connection? : Option Connection)
    (files : FileTree) : Outcome × FileTree :=
  match model files settings.modelPath with
  | .error error => (.failed error, files)
  | .ok model =>
    match settings.backend with
    | .file => conclude files (command.run model (.text settings.policyPath) files)
    | .database => runDatabase connection? files (command.run model)

/-- Makes the database of a connection with its table, if they are not there. -/
def migrate (connection? : Option Connection) (files : FileTree) : Outcome × FileTree :=
  runDatabase connection? files fun _ files => .ok ([], files)

def runInvocation (invocation : Invocation) (environment : List (String × String))
    (files : FileTree) : Outcome × FileTree :=
  match Settings.load? files invocation.settingsPath environment with
  | none => (.unsettled, files)
  | some settings =>
    let connection? := Connection.ofText? settings.databaseUrl
    match invocation.task with
    | .migrate => migrate connection? files
    | .command command => runCommand command settings connection? files

def run (arguments : List String) (environment : List (String × String)) (files : FileTree) :
    Outcome × FileTree :=
  match Invocation.ofArguments? arguments with
  | none => (.misused, files)
  | some invocation => runInvocation invocation environment files

end Program
end AccessControl
