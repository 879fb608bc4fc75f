import NotebookSim.Config
import NotebookSim.Simulator
/-!
Replaying a list of requests on a fresh simulator. With `failFast` the replay ends after the
first refused request.
-/
namespace NotebookSim

/-- The reply to a request, with the request's position counted from 1. -/
structure ReplayEntry where
  index : Nat
  reply : Reply

structure ReplayReport where
  entries : List ReplayEntry
  /-- What was counted, if that was asked for. -/
  metrics : Option Metrics

namespace Replay

/-- The entries of requests that start at a position, and the simulator after them. The clock
gives the time of each position. -/
def entriesFrom (scope : Scope) (clock : Nat → Timestamp) (failFast : Bool) (index : Nat)
    (sim : Simulator) : List Json → Except Halt (List ReplayEntry × Simulator)
  | [] => .ok ([], sim)
  | request :: requests => do
    let (reply, sim) ← sim.handle scope (clock index) request
    if failFast && reply.isError then return ([⟨index, reply⟩], sim)
    let (entries, sim) ← entriesFrom scope clock failFast (index + 1) sim requests
    return (⟨index, reply⟩ :: entries, sim)

/-- Replays requests under a configuration. -/
def run (config : Config) (scope : Scope) (clock : Nat → Timestamp)
    (failFast withMetrics : Bool) (requests : List Json) : Except Halt ReplayReport := do
  let (entries, sim) ← entriesFrom scope clock failFast 1 (.ofSettings config.settings) requests
  return ⟨entries, if withMetrics then some sim.metrics else none⟩

end Replay

namespace ReplayReport

def failed (report : ReplayReport) : Nat := report.entries.countP fun e => e.reply.isError

def succeeded (report : ReplayReport) : Nat := report.entries.length - report.failed

/-- The first refusal, with its position and action. -/
def firstRefusal? (report : ReplayReport) : Option (Nat × String × ServiceError) :=
  report.entries.findSome? fun e => e.reply.error?.map fun error => (e.index, e.reply.action, error)

end ReplayReport
end NotebookSim
