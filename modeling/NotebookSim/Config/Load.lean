import NotebookSim.Config.Environment
import NotebookSim.Config.Reader
import NotebookSim.Failure
/-!
Loading a configuration. A file is validated on its own before the environment overrides it, and
the result is validated again.
-/
namespace NotebookSim

/-- The texts of the files that can be read, by path. -/
abbrev Files := String → Except FileError String

namespace Config

/-- Refuses what breaks a rule, and gives the configuration back otherwise. -/
def checked (c : Config) : Except Failure Config :=
  match c.validate with
  | .ok () => .ok c
  | .error e => .error (.config e)

/-- The configuration in a file. -/
def ofFile (files : Files) (path : String) : Except Failure Config :=
  match files path with
  | .error .notFound => .error (.config (.fileNotFound path))
  | .error e => .error (.file e)
  | .ok text =>
    match parse text with
    | .ok c => c.checked
    | .error e => .error (.config e)

/-- The configuration in a file that must exist, overridden by the environment. -/
def load (files : Files) (env : Environment) (path : String) : Except Failure Config := do
  let c ← ofFile files path
  (c.override env).checked

/-- The configuration in a file, or the default one when there is no such file. -/
def loadOrDefault (files : Files) (env : Environment) (path : String) :
    Except Failure Config :=
  match load files env path with
  | .error (.config (.fileNotFound _)) => (Config.default.override env).checked
  | result => result

end Config
end NotebookSim
