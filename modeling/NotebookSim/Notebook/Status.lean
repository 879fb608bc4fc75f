import NotebookSim.Shape.Reader
/-!
The status of a notebook instance. Operations ask only for `inService`, `stopped` and
`deleting`; starting and stopping are allowed from everywhere but `deleting` and may leave the
status as it is.
-/
namespace NotebookSim

inductive NotebookStatus where
  | pending
  | inService
  | stopping
  | stopped
  | failed
  | deleting
  | updating
  deriving DecidableEq, Repr

namespace NotebookStatus

def name : NotebookStatus → String
  | pending => "Pending"
  | inService => "InService"
  | stopping => "Stopping"
  | stopped => "Stopped"
  | failed => "Failed"
  | deleting => "Deleting"
  | updating => "Updating"

def all : List NotebookStatus :=
  [pending, inService, stopping, stopped, failed, deleting, updating]

/-- Whether an operation may take an instance from one status to another. -/
def canBecome : NotebookStatus → NotebookStatus → Bool
  | deleting, _ => false
  | _, inService => true
  | _, stopped => true
  | stopped, deleting => true
  | failed, deleting => true
  | _, _ => false

def reader : Reader NotebookStatus := Reader.choice (all.map fun s => (s.name, s))

end NotebookStatus
end NotebookSim
