import NotebookSim.Text.Digits
/-!
Accounts, regions and the resources in them. A resource is identified by its ARN, which is
computed from its scope, its kind and its name.
-/
namespace NotebookSim

inductive ResourceKind where
  | notebookInstance
  | lifecycleConfig
  | model
  deriving DecidableEq, Repr

namespace ResourceKind

/-- The resource type part of an ARN. -/
def arnType : ResourceKind → String
  | notebookInstance => "notebook-instance"
  | lifecycleConfig => "notebook-instance-lifecycle-configuration"
  | model => "model"

/-- The label in metrics. -/
def label : ResourceKind → String
  | notebookInstance => "notebook_instance"
  | lifecycleConfig => "notebook_instance_lifecycle_config"
  | model => "model"

/-- The name in messages. -/
def display : ResourceKind → String
  | notebookInstance => "Notebook Instance"
  | lifecycleConfig => "Notebook Instance Lifecycle Config"
  | model => "Model"

end ResourceKind

/-- A simulated account in a region. Resources of different scopes are independent. -/
structure Scope where
  accountId : String
  region : String
  deriving DecidableEq, Repr

namespace Scope

/-- An account identifier is twelve decimal digits. -/
def isAccountId (s : String) : Bool :=
  let cs := s.toList
  cs.length == 12 && cs.all Char.isDigit

def arn (scope : Scope) (kind : ResourceKind) (name : String) : String :=
  "arn:aws:sagemaker:" ++ scope.region ++ ":" ++ scope.accountId ++ ":" ++ kind.arnType ++ "/" ++
    name

def display (scope : Scope) : String := scope.accountId ++ "/" ++ scope.region

end Scope

/-- The address under which a notebook instance is opened. -/
def notebookUrl (name region : String) : String :=
  name ++ ".notebook." ++ region ++ ".sagemaker.aws"

end NotebookSim
