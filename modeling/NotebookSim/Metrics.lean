import NotebookSim.Action
import NotebookSim.Resource
/-!
Counts of what the simulator did. A counter exists from its first increment; the gauge exists
once a backend was created or removed.
-/
namespace NotebookSim

inductive Counter where
  | operations (action : Action)
  /-- Refusals by operation; none stands for requests refused before they had one. -/
  | errors (action : Option Action)
  | created (kind : ResourceKind)
  | deleted (kind : ResourceKind)
  | transitions (action : Action)
  deriving DecidableEq, Repr

structure Metrics where
  counts : List (Counter × Nat)
  activeBackends : Option Nat
  deriving DecidableEq, Repr

namespace Metrics

def empty : Metrics := ⟨[], none⟩

/-- The value of a counter, zero before its first increment. -/
def count (m : Metrics) (c : Counter) : Nat := (m.counts.lookup c).getD 0

def increment (c : Counter) : List (Counter × Nat) → List (Counter × Nat)
  | [] => [(c, 1)]
  | (d, n) :: counts => if d = c then (d, n + 1) :: counts else (d, n) :: increment c counts

def add (m : Metrics) (c : Counter) : Metrics := { m with counts := increment c m.counts }

def addAll (m : Metrics) (cs : List Counter) : Metrics := cs.foldl add m

def setActive (m : Metrics) (n : Nat) : Metrics := { m with activeBackends := some n }

/-- The sum of the counters that satisfy a condition. -/
def total (m : Metrics) (p : Counter → Bool) : Nat :=
  m.counts.foldr (fun (c, n) rest => if p c then n + rest else rest) 0

end Metrics
end NotebookSim
