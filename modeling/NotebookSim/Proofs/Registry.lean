import NotebookSim.Proofs.Entries
import NotebookSim.Registry
/-!
The registry as a map from scopes to backends.
-/
namespace NotebookSim.Registry

theorem find?_put (registry : Registry) (scope other : Scope) (b : Backend) :
    (registry.put scope b).find? other = if scope = other then some b else registry.find? other :=
  Entries.lookup_assign scope other b registry.backends

theorem find?_reset (registry : Registry) (scope other : Scope) :
    (registry.reset scope).find? other = if scope = other then none else registry.find? other :=
  Entries.lookup_erase scope other registry.backends

@[simp] theorem settings_put (registry : Registry) (scope : Scope) (b : Backend) :
    (registry.put scope b).settings = registry.settings := rfl

@[simp] theorem settings_reset (registry : Registry) (scope : Scope) :
    (registry.reset scope).settings = registry.settings := rfl

theorem put_of_absent {registry : Registry} {scope : Scope}
    (absent : registry.find? scope = none) (b : Backend) :
    registry.put scope b = { registry with backends := registry.backends ++ [(scope, b)] } := by
  unfold put
  rw [Entries.assign_of_absent absent]

theorem put_of_found {registry : Registry} {scope : Scope} {b : Backend}
    (found : registry.find? scope = some b) : registry.put scope b = registry := by
  unfold put
  rw [Entries.assign_of_found found]

end NotebookSim.Registry
