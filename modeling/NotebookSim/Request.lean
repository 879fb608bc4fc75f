import NotebookSim.Action
import NotebookSim.LifecycleConfig
import NotebookSim.Model
import NotebookSim.Notebook
import NotebookSim.Tag.Request
/-!
Requests. A request is an object with the member `Action`, or an array that starts with the
action and goes on with the fields of its parameters.
-/
namespace NotebookSim

inductive Request where
  | createNotebook (p : CreateNotebook)
  | describeNotebook (name : String)
  | startNotebook (name : String)
  | stopNotebook (name : String)
  | deleteNotebook (name : String)
  | listNotebooks (p : ListNotebooks)
  | createLifecycleConfig (p : CreateLifecycleConfig)
  | describeLifecycleConfig (name : String)
  | updateLifecycleConfig (p : UpdateLifecycleConfig)
  | deleteLifecycleConfig (name : String)
  | listLifecycleConfigs (p : ListLifecycleConfigs)
  | addTags (p : AddTags)
  | listTags (p : ListTags)
  | deleteTags (p : DeleteTags)
  | createModel (p : CreateModel)
  | describeModel (name : String)
  | deleteModel (name : String)
  | listModels (p : ListModels)
  deriving DecidableEq, Repr

namespace Request

def action : Request → Action
  | createNotebook _ => .createNotebookInstance
  | describeNotebook _ => .describeNotebookInstance
  | startNotebook _ => .startNotebookInstance
  | stopNotebook _ => .stopNotebookInstance
  | deleteNotebook _ => .deleteNotebookInstance
  | listNotebooks _ => .listNotebookInstances
  | createLifecycleConfig _ => .createLifecycleConfig
  | describeLifecycleConfig _ => .describeLifecycleConfig
  | updateLifecycleConfig _ => .updateLifecycleConfig
  | deleteLifecycleConfig _ => .deleteLifecycleConfig
  | listLifecycleConfigs _ => .listLifecycleConfigs
  | addTags _ => .addTags
  | listTags _ => .listTags
  | deleteTags _ => .deleteTags
  | createModel _ => .createModel
  | describeModel _ => .describeModel
  | deleteModel _ => .deleteModel
  | listModels _ => .listModels

/-- The request for an action whose parameters are the given value. -/
def ofParameters (action : Action) (j : Json) : Except Misfit Request :=
  match action with
  | .createNotebookInstance => (CreateNotebook.reader .request j).map createNotebook
  | .describeNotebookInstance => (notebookName .request j).map describeNotebook
  | .startNotebookInstance => (notebookName .request j).map startNotebook
  | .stopNotebookInstance => (notebookName .request j).map stopNotebook
  | .deleteNotebookInstance => (notebookName .request j).map deleteNotebook
  | .listNotebookInstances => (ListNotebooks.reader .request j).map listNotebooks
  | .createLifecycleConfig =>
    (CreateLifecycleConfig.reader .request j).map createLifecycleConfig
  | .describeLifecycleConfig => (lifecycleConfigName .request j).map describeLifecycleConfig
  | .updateLifecycleConfig =>
    (UpdateLifecycleConfig.reader .request j).map updateLifecycleConfig
  | .deleteLifecycleConfig => (lifecycleConfigName .request j).map deleteLifecycleConfig
  | .listLifecycleConfigs => (ListLifecycleConfigs.reader .request j).map listLifecycleConfigs
  | .addTags => (AddTags.reader .request j).map addTags
  | .listTags => (ListTags.reader .request j).map listTags
  | .deleteTags => (DeleteTags.reader .request j).map deleteTags
  | .createModel => (CreateModel.reader .request j).map createModel
  | .describeModel => (modelName .request j).map describeModel
  | .deleteModel => (modelName .request j).map deleteModel
  | .listModels => (ListModels.reader .request j).map listModels

/-- The member that names the action. -/
def actionMember : String := "Action"

/-- The action that a value names. -/
def actionOf : Json → Except Misfit Action
  | .string s => Reader.named (Action.all.map fun a => (a.name, a)) s
  | j => .error (.kind j "variant identifier")

/-- Reads a request; the action is looked at before any other member. -/
def ofJson : Json → Except Misfit Request
  | .object members =>
    match members.lookup actionMember with
    | none => .error (.missing actionMember)
    | some j => do
      let action ← actionOf j
      ofParameters action (.object (members.filter fun m => m.1 ≠ actionMember))
  | .array [] => .error (.missing actionMember)
  | .array (j :: items) => do
    let action ← actionOf j
    ofParameters action (.array items)
  | j => .error (.kind j "internally tagged enum Request")

end Request
end NotebookSim
