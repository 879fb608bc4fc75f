import NotebookSim.Proofs.Registry
import NotebookSim.Proofs.Step
import NotebookSim.Simulator
/-!
What addressing, resetting and dispatching do to the registry, and how a request is answered.
-/
namespace NotebookSim.Simulator

theorem touch_of_found {sim : Simulator} {scope : Scope} {b : Backend}
    (found : sim.registry.find? scope = some b) : sim.touch scope = sim := by
  unfold touch
  rw [found]

theorem registry_touch (sim : Simulator) (scope : Scope) :
    (sim.touch scope).registry = sim.registry.put scope (sim.registry.backend scope) := by
  cases found : sim.registry.find? scope with
  | none => simp [touch, found]
  | some b =>
    have same : sim.registry.backend scope = b := by simp [Registry.backend, found]
    rw [touch_of_found found, same, Registry.put_of_found found]

theorem find?_touch (sim : Simulator) (scope other : Scope) :
    (sim.touch scope).registry.find? other =
      if scope = other then some (sim.registry.backend scope) else sim.registry.find? other := by
  rw [registry_touch, Registry.find?_put]

theorem backend_touch (sim : Simulator) (scope : Scope) :
    (sim.touch scope).registry.backend scope = sim.registry.backend scope := by
  unfold Registry.backend
  rw [find?_touch, if_pos rfl]
  rfl

@[simp] theorem settings_touch (sim : Simulator) (scope : Scope) :
    (sim.touch scope).registry.settings = sim.registry.settings := by
  rw [registry_touch, Registry.settings_put]

theorem registry_reset (sim : Simulator) (scope : Scope) :
    (sim.reset scope).2.registry.settings = sim.registry.settings ∧
    ∀ other, (sim.reset scope).2.registry.find? other =
      if scope = other then none else sim.registry.find? other := by
  cases found : sim.registry.find? scope with
  | none =>
    simp only [reset, found, true_and]
    intro other
    split
    · next same => exact same ▸ found
    · rfl
  | some b =>
    simp only [reset, found, Registry.settings_reset, true_and]
    exact Registry.find?_reset sim.registry scope

theorem reset_fst (sim : Simulator) (scope : Scope) :
    (sim.reset scope).1 = (sim.registry.find? scope).isSome := by
  unfold reset
  cases sim.registry.find? scope <;> rfl

theorem dispatch_fst (sim : Simulator) (scope : Scope) (now : Timestamp) (request : Request) :
    (sim.dispatch scope now request).1 =
      ⟨request.action.name, ((sim.registry.backend scope).execute now request).result⟩ := by
  simp only [dispatch, backend_touch]

theorem registry_dispatch (sim : Simulator) (scope : Scope) (now : Timestamp)
    (request : Request) :
    (sim.dispatch scope now request).2.registry =
      (sim.touch scope).registry.put scope ((sim.registry.backend scope).after now request) := by
  simp only [dispatch, backend_touch, Backend.after]

theorem find?_dispatch (sim : Simulator) (scope other : Scope) (now : Timestamp)
    (request : Request) :
    (sim.dispatch scope now request).2.registry.find? other =
      if scope = other then some ((sim.registry.backend scope).after now request)
      else sim.registry.find? other := by
  rw [registry_dispatch, Registry.find?_put, find?_touch]
  split <;> rfl

@[simp] theorem settings_dispatch (sim : Simulator) (scope : Scope) (now : Timestamp)
    (request : Request) :
    (sim.dispatch scope now request).2.registry.settings = sim.registry.settings := by
  rw [registry_dispatch, Registry.settings_put, settings_touch]

/-! ## The two ways a request is answered -/

/-- A request that reaches no backend: its scope is refused, or it does not parse. -/
def Unread (fallback : Scope) (request : Json) : Prop :=
  ∀ scope r, requestScope request fallback = .ok scope → Request.ofJson request ≠ .ok r

theorem handle_of_parsed {fallback scope : Scope} {request : Json} {r : Request}
    (routed : requestScope request fallback = .ok scope) (parsed : Request.ofJson request = .ok r)
    (sim : Simulator) (now : Timestamp) :
    sim.handle fallback now request = .ok (sim.dispatch scope now r) := by
  simp only [handle, routed, parsed]

/-- What an unread request is answered does not depend on the simulator. -/
theorem handle_of_unread {fallback : Scope} {request : Json} (unread : Unread fallback request) :
    (∀ (sim : Simulator) now, sim.handle fallback now request = .error .timeOverflow) ∨
    ∃ e, ∀ (sim : Simulator) now, sim.handle fallback now request = .ok (sim.reject request e) := by
  cases routed : requestScope request fallback with
  | error e => exact .inr ⟨e, fun sim now => by simp only [handle, routed]⟩
  | ok scope =>
    cases parsed : Request.ofJson request with
    | ok r => exact absurd parsed (unread scope r routed)
    | error misfit =>
      cases misfit with
      | timeOverflow => exact .inl fun sim now => by simp only [handle, routed, parsed]
      | _ => exact .inr ⟨_, fun sim now => by simp only [handle, routed, parsed]; rfl⟩

theorem parsed_or_unread (fallback : Scope) (request : Json) :
    (∃ scope r, requestScope request fallback = .ok scope ∧ Request.ofJson request = .ok r) ∨
    Unread fallback request := by
  by_cases h : ∃ scope r,
      requestScope request fallback = .ok scope ∧ Request.ofJson request = .ok r
  · exact .inl h
  · exact .inr fun scope r routed parsed => h ⟨scope, r, routed, parsed⟩

/-- The scope from which the concrete runs of this theory are made. -/
def home : Scope := ⟨"123456789012", "us-east-1"⟩

end NotebookSim.Simulator
