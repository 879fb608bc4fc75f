import NotebookSim.Backend
import NotebookSim.Entries
/-!
The backends of all scopes. A backend is created when its scope is first addressed, and a reset
drops it with everything in it.
-/
namespace NotebookSim

structure Registry where
  settings : Settings
  backends : List (Scope × Backend)
  deriving DecidableEq, Repr

namespace Registry

def empty (settings : Settings) : Registry := ⟨settings, []⟩

def find? (registry : Registry) (scope : Scope) : Option Backend :=
  registry.backends.lookup scope

def size (registry : Registry) : Nat := registry.backends.length

def isEmpty (registry : Registry) : Bool := registry.backends.isEmpty

/-- The backend of a scope, empty when the scope was not addressed before. -/
def backend (registry : Registry) (scope : Scope) : Backend :=
  (registry.find? scope).getD (.fresh scope registry.settings)

def put (registry : Registry) (scope : Scope) (b : Backend) : Registry :=
  { registry with backends := Entries.assign scope b registry.backends }

/-- Drops the backend of a scope. -/
def reset (registry : Registry) (scope : Scope) : Registry :=
  { registry with backends := Entries.erase scope registry.backends }

end Registry
end NotebookSim
