import NotebookSim.Backend.LifecycleConfigs
import NotebookSim.Backend.Models
import NotebookSim.Backend.Notebooks
import NotebookSim.Backend.Tagging
import NotebookSim.Request
/-!
Requests on one backend.
-/
namespace NotebookSim

/-- The operation that a request asks for. -/
def Request.operation (now : Timestamp) : Request → Operation Response
  | .createNotebook p => .createNotebook now p
  | .describeNotebook name => .read (·.describeNotebook name)
  | .startNotebook name => .startNotebook now name
  | .stopNotebook name => .stopNotebook now name
  | .deleteNotebook name => .deleteNotebook name
  | .listNotebooks p => .read (·.listNotebooks p)
  | .createLifecycleConfig p => .createLifecycleConfig now p
  | .describeLifecycleConfig name => .read (·.describeLifecycleConfig name)
  | .updateLifecycleConfig p => .updateLifecycleConfig now p
  | .deleteLifecycleConfig name => .deleteLifecycleConfig name
  | .listLifecycleConfigs p => .read (·.listLifecycleConfigs p)
  | .addTags p => .addTags p
  | .listTags p => .read (·.listTags p)
  | .deleteTags p => .deleteTags p
  | .createModel p => .createModel now p
  | .describeModel name => .read (·.describeModel name)
  | .deleteModel name => .deleteModel name
  | .listModels p => .read (·.listModels p)

/-- What comes of a request: the answer or the refusal, the backend as it is left, and what was
counted. -/
structure Completion where
  result : Except ServiceError Response
  backend : Backend
  counted : List Counter

namespace Backend

/-- Carries out a request. -/
def execute (b : Backend) (now : Timestamp) (request : Request) : Completion :=
  match (request.operation now).run ⟨b, []⟩ with
  | .ok response w => ⟨.ok response, w.backend, w.counted⟩
  | .error e w => ⟨.error e, w.backend, w.counted⟩

/-- The backend after a request. -/
def after (b : Backend) (now : Timestamp) (request : Request) : Backend :=
  (b.execute now request).backend

/-- The backend after requests that are made one after the other, each at its time. -/
def run (b : Backend) (requests : List (Timestamp × Request)) : Backend :=
  requests.foldl (fun b (now, request) => b.after now request) b

end Backend
end NotebookSim
