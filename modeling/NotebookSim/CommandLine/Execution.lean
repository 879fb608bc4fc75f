import NotebookSim.CommandLine.Report
import NotebookSim.Config.Load
import NotebookSim.Script
/-!
Carrying out commands. A command ends with a report, an error, or both: a report is printed before
the error that it leads to.
-/
namespace NotebookSim

/-- What a command sees of its surroundings: files, variables, and the time of each request. -/
structure Surroundings where
  files : Files
  env : Environment
  clock : Nat → Timestamp

structure Outcome where
  report : Option Report
  error : Option CommandError

namespace Outcome

def success (report : Report) : Outcome := ⟨some report, none⟩

def failed (error : CommandError) : Outcome := ⟨none, some error⟩

def exitCode (outcome : Outcome) : Nat :=
  match outcome.error with
  | some error => error.exitCode
  | none => 0

end Outcome

namespace RunCommand

/-- The requests of the script. -/
def readScript (files : Files) (path : String) : Except CommandError (List Json) :=
  match files path with
  | .error e => .error (.script (path ++ ": " ++ e.message))
  | .ok text =>
    match Script.parse text with
    | .ok requests => .ok requests
    | .error e => .error (.script e.message)

/-- The scope of requests that name none. -/
def scope (r : RunCommand) (config : Config) : Scope :=
  ⟨r.account.getD config.scope.accountId, r.region.getD config.scope.region⟩

/-- With `failFast` the first refusal is the error that the command ends with. -/
def errorOf (r : RunCommand) (report : ReplayReport) : Option CommandError :=
  if r.failFast then
    report.firstRefusal?.map fun (index, action, e) =>
      .requestFailed index action e.body.display
  else none

def execute (r : RunCommand) (around : Surroundings) (config : Config) :
    Except Halt Outcome :=
  match readScript around.files r.script with
  | .error e => .ok (.failed e)
  | .ok requests => do
    let report ← Replay.run config (r.scope config) around.clock r.failFast r.metrics requests
    return ⟨some (.replay report), r.errorOf report⟩

end RunCommand

namespace CommandLine

/-- Where a shown configuration comes from when there is no file. -/
def defaultSource : String := "<defaults>"

/-- The file that a configuration was loaded from, if there is one. -/
def sourceOf (files : Files) (path : String) : String :=
  match files path with
  | .error .notFound => defaultSource
  | _ => path

/-- What follows the name of an unknown section where there is room to list the known ones. -/
def knownSections : String :=
  " (expected: " ++ ", ".intercalate (ConfigSection.all.map ConfigSection.name) ++ ")"

/-- The section that is asked for; none stands for all of them. A hint ends the message about an
unknown one. -/
def sectionOf (hint : String) : Option String → Except CommandError (Option ConfigSection)
  | none => .ok none
  | some name =>
    match ConfigSection.ofName? name with
    | some part => .ok (some part)
    | none => .error (.command ("unknown section: " ++ name ++ hint))

/-- A configuration that must exist in a file; whatever is wrong with it stands in the report. -/
def validateConfig (around : Surroundings) (path : String) : Outcome :=
  match Config.load around.files around.env path with
  | .ok _ => .success (.validation ⟨path, true, []⟩)
  | .error f =>
    ⟨some (.validation ⟨path, false, [f.message]⟩), some (.config "configuration is invalid")⟩

def showConfig (files : Files) (path : String) (part : Option String) (config : Config) :
    Outcome :=
  match sectionOf knownSections part with
  | .ok part => .success (.config ⟨sourceOf files path, part, config⟩)
  | .error e => .failed e

/-- Carries out a command. All but the validation start by loading the configuration. -/
def execute (around : Surroundings) (i : Invocation) : Except Halt Outcome :=
  match i.command with
  | .validateConfig => .ok (validateConfig around i.configPath)
  | command =>
    match Config.loadOrDefault around.files around.env i.configPath with
    | .error f => .ok (.failed (.failure f))
    | .ok config =>
      match command with
      | .run r => r.execute around config
      | .showConfig part => .ok (showConfig around.files i.configPath part config)
      | _ => .ok (.success (.instanceTypes config.settings.instanceTypes))

end CommandLine
end NotebookSim
