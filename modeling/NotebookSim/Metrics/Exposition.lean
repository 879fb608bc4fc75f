import NotebookSim.Metrics
import NotebookSim.ServiceError
import NotebookSim.Text.Digits
/-!
Metrics in the Prometheus text format: for every family with a sample its help, its type and
the samples, then a blank line.
-/
namespace NotebookSim.Metrics

structure Family where
  name : String
  help : String
  type : String
  samples : List String

def labelled (labels : List (String × String)) : String :=
  "\x7b" ++ ",".intercalate (labels.map fun (k, v) => k ++ "=\"" ++ v ++ "\"") ++ "\x7d"

/-- The operation label of requests that never had an action. -/
def malformedLabel : String := "Malformed"

/-- The labels of a counter, by the family it belongs to. -/
def operationLabels : Counter → Option (List (String × String))
  | .operations a => some [("operation", a.name)]
  | _ => none

def errorLabels : Counter → Option (List (String × String))
  | .errors (some a) => some [("operation", a.name), ("code", ErrorBody.validation)]
  | .errors none => some [("operation", malformedLabel), ("code", ErrorBody.validation)]
  | _ => none

def createdLabels : Counter → Option (List (String × String))
  | .created k => some [("kind", k.label)]
  | _ => none

def deletedLabels : Counter → Option (List (String × String))
  | .deleted k => some [("kind", k.label)]
  | _ => none

def transitionLabels : Counter → Option (List (String × String))
  | .transitions a => some [("operation", a.name)]
  | _ => none

/-- A family of counters, with its samples in the order of their first increment. -/
def counterFamily (name help : String) (labels : Counter → Option (List (String × String)))
    (m : Metrics) : Family :=
  ⟨name, help, "counter", m.counts.filterMap fun (c, n) =>
    (labels c).map fun ls => name ++ labelled ls ++ " " ++ Text.natural n⟩

def backendsActive : String := "sagesim_sagemaker_backends_active"

def families (m : Metrics) : List Family :=
  [counterFamily "sagesim_sagemaker_operations_total"
      "Total number of simulated SageMaker operations handled" operationLabels m,
    counterFamily "sagesim_sagemaker_errors_total"
      "Total number of simulated operations rejected with a service error" errorLabels m,
    counterFamily "sagesim_sagemaker_resources_created_total"
      "Total number of resources created, per resource kind" createdLabels m,
    counterFamily "sagesim_sagemaker_resources_deleted_total"
      "Total number of resources deleted, per resource kind" deletedLabels m,
    counterFamily "sagesim_sagemaker_status_transitions_total"
      "Total number of notebook instance status transitions" transitionLabels m,
    ⟨backendsActive, "Number of account/region backends currently materialized", "gauge",
      match m.activeBackends with
      | some n => [backendsActive ++ " " ++ Text.natural n]
      | none => []⟩]

def Family.lines (f : Family) : List String :=
  ("# HELP " ++ f.name ++ " " ++ f.help) :: ("# TYPE " ++ f.name ++ " " ++ f.type) :: f.samples

/-- The families that have samples. -/
def shown (m : Metrics) : List Family := m.families.filter fun f => !f.samples.isEmpty

/-- All lines but the blank ones. -/
def lines (m : Metrics) : List String := (m.shown.map Family.lines).flatten

def exposition (m : Metrics) : String :=
  String.join (m.shown.map fun f => String.join (f.lines.map (· ++ "\n")) ++ "\n")

end NotebookSim.Metrics
