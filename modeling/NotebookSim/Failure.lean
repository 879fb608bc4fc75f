import NotebookSim.Config
/-!
What can fail outside of a request: the configuration, a service call made directly, and files.
-/
namespace NotebookSim

/-- Why the text of a file cannot be read. -/
inductive FileError where
  | notFound
  | directory
  | notUtf8
  | other (reason : String)
  deriving DecidableEq, Repr

def FileError.message : FileError → String
  | notFound => "No such file or directory (os error 2)"
  | directory => "Is a directory (os error 21)"
  | notUtf8 => "stream did not contain valid UTF-8"
  | other reason => reason

inductive Failure where
  | config (error : ConfigError)
  | service (body : ErrorBody)
  | file (error : FileError)
  deriving DecidableEq, Repr

def Failure.message : Failure → String
  | config error => "config error: " ++ error.message
  | service body => "service error: " ++ body.display
  | file error => "io error: " ++ error.message

end NotebookSim
