/-!
The operations of the service by the names that requests give them.
-/
namespace NotebookSim

inductive Action where
  | createNotebookInstance
  | describeNotebookInstance
  | startNotebookInstance
  | stopNotebookInstance
  | deleteNotebookInstance
  | listNotebookInstances
  | createLifecycleConfig
  | describeLifecycleConfig
  | updateLifecycleConfig
  | deleteLifecycleConfig
  | listLifecycleConfigs
  | addTags
  | listTags
  | deleteTags
  | createModel
  | describeModel
  | deleteModel
  | listModels
  deriving DecidableEq, Repr

namespace Action

def name : Action → String
  | createNotebookInstance => "CreateNotebookInstance"
  | describeNotebookInstance => "DescribeNotebookInstance"
  | startNotebookInstance => "StartNotebookInstance"
  | stopNotebookInstance => "StopNotebookInstance"
  | deleteNotebookInstance => "DeleteNotebookInstance"
  | listNotebookInstances => "ListNotebookInstances"
  | createLifecycleConfig => "CreateNotebookInstanceLifecycleConfig"
  | describeLifecycleConfig => "DescribeNotebookInstanceLifecycleConfig"
  | updateLifecycleConfig => "UpdateNotebookInstanceLifecycleConfig"
  | deleteLifecycleConfig => "DeleteNotebookInstanceLifecycleConfig"
  | listLifecycleConfigs => "ListNotebookInstanceLifecycleConfigs"
  | addTags => "AddTags"
  | listTags => "ListTags"
  | deleteTags => "DeleteTags"
  | createModel => "CreateModel"
  | describeModel => "DescribeModel"
  | deleteModel => "DeleteModel"
  | listModels => "ListModels"

/-- All actions, in the order in which messages list them. -/
def all : List Action :=
  [createNotebookInstance, describeNotebookInstance, startNotebookInstance,
    stopNotebookInstance, deleteNotebookInstance, listNotebookInstances, createLifecycleConfig,
    describeLifecycleConfig, updateLifecycleConfig, deleteLifecycleConfig, listLifecycleConfigs,
    addTags, listTags, deleteTags, createModel, describeModel, deleteModel, listModels]

end Action
end NotebookSim
