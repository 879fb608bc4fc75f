import NotebookSim.Backend.Run
import NotebookSim.Registry
import NotebookSim.Reply
/-!
The simulator: requests are routed to the backend of their scope. The scope is settled and
checked before the rest of a request is read; a request refused by then touches no backend.
-/
namespace NotebookSim

/-- The one reason for which the simulator stops without a reply: a time bound past the last
representable instant. -/
inductive Halt where
  | timeOverflow
  deriving DecidableEq, Repr

/-- The scope a request names; a member that is not a string counts as absent. -/
def requestScope (request : Json) (fallback : Scope) : Except ServiceError Scope := do
  let scope : Scope :=
    ⟨(request.stringMember? "AccountId").getD fallback.accountId,
      (request.stringMember? "Region").getD fallback.region⟩
  scope.validate
  return scope

/-- The action as a request gives it. -/
def requestedAction (request : Json) : String :=
  (request.stringMember? Request.actionMember).getD "<missing>"

structure Simulator where
  registry : Registry
  metrics : Metrics
  deriving DecidableEq, Repr

namespace Simulator

/-- A simulator without backends; its settings are taken as they are. -/
def empty (settings : Settings) : Simulator := ⟨.empty settings, .empty⟩

def ofSettings (settings : Settings) : Simulator := .empty settings.enforced

/-- Addresses a scope: its backend exists afterwards. -/
def touch (sim : Simulator) (scope : Scope) : Simulator :=
  match sim.registry.find? scope with
  | some _ => sim
  | none =>
    { registry := sim.registry.put scope (sim.registry.backend scope)
      metrics := sim.metrics.setActive (sim.registry.size + 1) }

/-- Drops a scope, and tells whether it had a backend. -/
def reset (sim : Simulator) (scope : Scope) : Bool × Simulator :=
  match sim.registry.find? scope with
  | none => (false, sim)
  | some _ =>
    let registry := sim.registry.reset scope
    (true, { registry, metrics := sim.metrics.setActive registry.size })

/-- Runs a request on the backend of a scope. -/
def dispatch (sim : Simulator) (scope : Scope) (now : Timestamp) (request : Request) :
    Reply × Simulator :=
  let sim := sim.touch scope
  let completion := (sim.registry.backend scope).execute now request
  let metrics := (sim.metrics.add (.operations request.action)).addAll completion.counted
  (⟨request.action.name, completion.result⟩,
    { registry := sim.registry.put scope completion.backend
      metrics := match completion.result with
        | .ok _ => metrics
        | .error _ => metrics.add (.errors (some request.action)) })

/-- The refusal of a request that never reached a backend. -/
def reject (sim : Simulator) (request : Json) (e : ServiceError) : Reply × Simulator :=
  (⟨requestedAction request, .error e⟩, { sim with metrics := sim.metrics.add (.errors none) })

/-- Answers one request. -/
def handle (sim : Simulator) (fallback : Scope) (now : Timestamp) (request : Json) :
    Except Halt (Reply × Simulator) :=
  match requestScope request fallback with
  | .error e => .ok (sim.reject request e)
  | .ok scope =>
    match Request.ofJson request with
    | .error .timeOverflow => .error .timeOverflow
    | .error misfit => .ok (sim.reject request (.malformed misfit))
    | .ok r => .ok (sim.dispatch scope now r)

end Simulator
end NotebookSim
