import NotebookSim.Backend
/-!
Operations on lifecycle configurations. An update replaces the script lists that it gives and
keeps the others.
-/
namespace NotebookSim

namespace Backend

def newLifecycleConfig (b : Backend) (now : Timestamp) (p : CreateLifecycleConfig) :
    LifecycleConfig :=
  ⟨b.arn .lifecycleConfig p.name, p.name, p.onCreate, p.onStart, now, now⟩

def describeLifecycleConfig (b : Backend) (name : String) : Except ServiceError Response := do
  let r ← (b.lifecycleConfigs.get name).mapError
    fun _ => .configNotFound .describe (b.arn .lifecycleConfig name)
  return .lifecycleConfig r

def listLifecycleConfigs (b : Backend) (p : ListLifecycleConfigs) :
    Except ServiceError Response := do
  let size ← (b.pageSize p.maxResults).mapError .page
  let sort := (p.sortBy.getD .creationTime).sort
  let page ← ((p.query size).run (fun _ => true) sort b.lifecycleConfigs.records).mapError .page
  return .lifecycleConfigs (page.map LifecycleConfig.summary)

end Backend

namespace Operation

def createLifecycleConfig (now : Timestamp) (p : CreateLifecycleConfig) :
    Operation Response := do
  require (Tag.validateAll p.tags)
  let b ← backend
  let arn := b.arn .lifecycleConfig p.name
  let configs ← require ((b.lifecycleConfigs.insert (b.newLifecycleConfig now p)).mapError
    fun _ => .duplicateConfig arn)
  change fun b => { b with lifecycleConfigs := configs }
  change fun b => { b with tags := b.tagged arn p.tags }
  count (.created .lifecycleConfig)
  return .created .lifecycleConfig arn

def updateLifecycleConfig (now : Timestamp) (p : UpdateLifecycleConfig) :
    Operation Response := do
  let b ← backend
  let configs ← require ((b.lifecycleConfigs.update p.name (p.apply now)).mapError
    fun _ => .configNotFound .update (b.arn .lifecycleConfig p.name))
  change fun b => { b with lifecycleConfigs := configs }
  return .done

/-- Deletes a configuration together with its tags. -/
def deleteLifecycleConfig (name : String) : Operation Response := do
  let b ← backend
  let (removed, configs) ← require ((b.lifecycleConfigs.remove name).mapError
    fun _ => .configNotFound .delete (b.arn .lifecycleConfig name))
  change fun b => { b with lifecycleConfigs := configs }
  change fun b => { b with tags := b.tags.removeResource removed.arn }
  count (.deleted .lifecycleConfig)
  return .done

end Operation
end NotebookSim
