import NotebookSim.Failure
import NotebookSim.Text.Digits
/-!
The commands, and the ways in which they end.
-/
namespace NotebookSim

inductive OutputFormat where
  | text
  | json
  deriving DecidableEq, Repr

def OutputFormat.ofName? (s : String) : Option OutputFormat :=
  if s = "text" then some .text else if s = "json" then some .json else none

/-- What `run` is asked to do. -/
structure RunCommand where
  script : String
  account : Option String
  region : Option String
  failFast : Bool
  metrics : Bool
  deriving DecidableEq, Repr

inductive Command where
  | run (r : RunCommand)
  | validateConfig
  | showConfig (part : Option String)
  | instanceTypes
  deriving DecidableEq, Repr

/-- A command with the options that all commands share. -/
structure Invocation where
  command : Command
  configPath : String
  logLevel : Option String
  output : OutputFormat
  deriving DecidableEq, Repr

inductive CommandError where
  | config (reason : String)
  | command (reason : String)
  | script (reason : String)
  | requestFailed (index : Nat) (action reason : String)
  | file (error : FileError)
  | failure (f : Failure)
  deriving DecidableEq, Repr

namespace CommandError

def message : CommandError → String
  | config reason => "configuration error: " ++ reason
  | command reason => reason
  | script reason => "invalid script: " ++ reason
  | requestFailed index action reason =>
    "request #" ++ Text.natural index ++ " (" ++ action ++ ") failed: " ++ reason
  | file error => "io error: " ++ error.message
  | failure f => f.message

def exitCode : CommandError → Nat
  | config _ => 2
  | failure (.config _) => 2
  | script _ => 3
  | file _ => 10
  | failure (.file _) => 10
  | requestFailed .. => 1
  | command _ => 1
  | failure (.service _) => 1

end CommandError

/-- Why an argument list is not carried out as a command. -/
inductive UsageError where
  | missingArgument
  | unknownArgument
  | unknownCommand
  | invalidValue
  /-- A switch is given a value. -/
  | unneededValue
  /-- An option is given twice. -/
  | repeated
  | noArguments
  | noCommand
  | help
  | version
  deriving DecidableEq, Repr

/-- Asking for help or the version is no failure. -/
def UsageError.exitCode : UsageError → Nat
  | help => 0
  | version => 0
  | _ => 2

end NotebookSim
