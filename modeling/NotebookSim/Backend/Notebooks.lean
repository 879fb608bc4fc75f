import NotebookSim.Backend
/-!
Operations on notebook instances. A new instance is in service at once; it can be deleted only
when it is stopped or has failed.
-/
namespace NotebookSim

namespace Backend

/-- The record of a new instance, with the defaults filled in. -/
def newNotebook (b : Backend) (now : Timestamp) (p : CreateNotebook) : NotebookInstance where
  arn := b.arn .notebookInstance p.name
  name := p.name
  status := .inService
  url := notebookUrl p.name b.scope.region
  instanceType := p.instanceType
  subnetId := p.subnetId
  securityGroupIds := p.securityGroupIds
  roleArn := p.roleArn
  kmsKeyId := p.kmsKeyId
  lifecycleConfigName := p.lifecycleConfigName
  directInternetAccess := p.directInternetAccess.getD .enabled
  volumeSizeInGb := p.volumeSizeInGb.getD b.settings.defaultVolumeSizeGb
  acceleratorTypes := p.acceleratorTypes
  defaultCodeRepository := p.defaultCodeRepository
  additionalCodeRepositories := p.additionalCodeRepositories
  rootAccess := p.rootAccess.getD .enabled
  creationTime := now
  lastModifiedTime := now

/-- Whether the instance type, the volume size and the tags of a request are acceptable; the
first that is not is reported. -/
def checkNotebook (b : Backend) (p : CreateNotebook) : Except ServiceError Unit :=
  let volume := p.volumeSizeInGb.getD b.settings.defaultVolumeSizeGb
  if !b.settings.allows p.instanceType then
    .error (.instanceType p.instanceType b.settings.instanceTypes)
  else if volume < ServiceError.leastVolumeSize ∨ ServiceError.greatestVolumeSize < volume then
    .error (.volumeSize volume)
  else Tag.validateAll p.tags

def describeNotebook (b : Backend) (name : String) : Except ServiceError Response := do
  let r ← (b.notebooks.get name).mapError fun _ => .notebookNotFound
  return .notebook r

def listNotebooks (b : Backend) (p : ListNotebooks) : Except ServiceError Response := do
  let size ← (b.pageSize p.maxResults).mapError .page
  let sort := (p.sortBy.getD .creationTime).sort
  let page ← ((p.query size).run p.selects sort b.notebooks.records).mapError .page
  return .notebooks (page.map NotebookInstance.summary)

end Backend

namespace Operation

def createNotebook (now : Timestamp) (p : CreateNotebook) : Operation Response := do
  let b ← backend
  require (b.checkNotebook p)
  let arn := b.arn .notebookInstance p.name
  let notebooks ← require ((b.notebooks.insert (b.newNotebook now p)).mapError
    fun _ => .duplicateNotebook arn)
  change fun b => { b with notebooks }
  change fun b => { b with tags := b.tagged arn p.tags }
  count (.created .notebookInstance)
  return .created .notebookInstance arn

/-- Changes the record of an instance in its place. -/
def updateNotebook (name : String) (f : NotebookInstance → NotebookInstance) : Operation Unit := do
  let b ← backend
  let notebooks ← require ((b.notebooks.update name f).mapError fun _ => .notebookNotFound)
  change fun b => { b with notebooks }

/-- Takes an instance to another status and notes the time, even when the status stays. -/
def transitionNotebook (now : Timestamp) (name : String) (next : NotebookStatus)
    (action : Action) : Operation Response := do
  let b ← backend
  let r ← require ((b.notebooks.get name).mapError fun _ => .notebookNotFound)
  if !r.status.canBecome next then
    throw (.transition r.status next (b.arn .notebookInstance name))
  updateNotebook name fun r => { r with status := next, lastModifiedTime := now }
  count (.transitions action)
  return .done

def startNotebook (now : Timestamp) (name : String) : Operation Response :=
  transitionNotebook now name .inService .startNotebookInstance

def stopNotebook (now : Timestamp) (name : String) : Operation Response :=
  transitionNotebook now name .stopped .stopNotebookInstance

/-- Deletes an instance together with its tags. The record is marked before it is taken out. -/
def deleteNotebook (name : String) : Operation Response := do
  let b ← backend
  let r ← require ((b.notebooks.get name).mapError fun _ => .notebookNotFound)
  if !r.status.canBecome .deleting then throw (.notDeletable r.status r.arn)
  updateNotebook name fun r => { r with status := .deleting }
  let b ← backend
  let (removed, notebooks) ← require ((b.notebooks.remove name).mapError
    fun _ => .notebookNotFound)
  change fun b => { b with notebooks }
  change fun b => { b with tags := b.tags.removeResource removed.arn }
  count (.deleted .notebookInstance)
  return .done

end Operation
end NotebookSim
