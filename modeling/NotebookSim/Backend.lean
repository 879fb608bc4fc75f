import NotebookSim.LifecycleConfig
import NotebookSim.Metrics
import NotebookSim.Model
import NotebookSim.Notebook
import NotebookSim.Response
import NotebookSim.ServiceError
import NotebookSim.Settings
import NotebookSim.Tag.Index
/-!
The state of one scope, and the operations on it. An operation works in place: what it has changed
and counted stays when a later step of it refuses the request.
-/
namespace NotebookSim

structure Backend where
  scope : Scope
  settings : Settings
  notebooks : Store NotebookInstance
  lifecycleConfigs : Store LifecycleConfig
  models : Store Model
  tags : TagIndex
  deriving DecidableEq, Repr

namespace Backend

def fresh (scope : Scope) (settings : Settings) : Backend :=
  ⟨scope, settings, .empty, .empty, .empty, .empty⟩

def arn (b : Backend) (kind : ResourceKind) (name : String) : String := b.scope.arn kind name

/-- The tags of a new resource; a resource without tags gets no entry. -/
def tagged (b : Backend) (arn : String) (tags : List Tag) : TagIndex :=
  if tags.isEmpty then b.tags else b.tags.add arn tags

/-- The page size of a resource listing. -/
def pageSize (b : Backend) (requested : Option Nat) :
    Except PageError (Page.Size Settings.greatestListPage) :=
  Page.resolveSize requested b.settings.listMaxResults Settings.greatestListPage
    fun _ => by decide

end Backend

/-- What an operation works on: a backend, and what was counted so far. -/
structure Workspace where
  backend : Backend
  counted : List Counter
  deriving DecidableEq, Repr

/-- A computation on a backend that may refuse; a refusal does not undo what was done before. -/
abbrev Operation := EStateM ServiceError Workspace

namespace Operation

def backend : Operation Backend := return (← get).backend

def change (f : Backend → Backend) : Operation Unit :=
  modify fun w => { w with backend := f w.backend }

def count (c : Counter) : Operation Unit := modify fun w => { w with counted := w.counted ++ [c] }

/-- The value, or the refusal that stands in its place. -/
def require {α : Type} : Except ServiceError α → Operation α
  | .ok x => pure x
  | .error e => throw e

/-- An operation that only looks at the backend. -/
def read (answer : Backend → Except ServiceError Response) : Operation Response := do
  require (answer (← backend))

end Operation
end NotebookSim
