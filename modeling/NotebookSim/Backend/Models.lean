import NotebookSim.Backend
/-!
Operations on models.
-/
namespace NotebookSim

namespace Backend

def newModel (b : Backend) (now : Timestamp) (p : CreateModel) : Model :=
  ⟨b.arn .model p.name, p.name, p.primaryContainer, p.executionRoleArn,
    p.enableNetworkIsolation, now⟩

def describeModel (b : Backend) (name : String) : Except ServiceError Response := do
  let r ← (b.models.get name).mapError fun _ => .modelNotFound (b.arn .model name)
  return .model r

def listModels (b : Backend) (p : ListModels) : Except ServiceError Response := do
  let size ← (b.pageSize p.maxResults).mapError .page
  let sort := (p.sortBy.getD .creationTime).sort
  let page ← ((p.query size).run (fun _ => true) sort b.models.records).mapError .page
  return .models (page.map Model.summary)

end Backend

namespace Operation

def createModel (now : Timestamp) (p : CreateModel) : Operation Response := do
  require (Tag.validateAll p.tags)
  let b ← backend
  let arn := b.arn .model p.name
  let models ← require ((b.models.insert (b.newModel now p)).mapError fun _ => .duplicateModel arn)
  change fun b => { b with models }
  change fun b => { b with tags := b.tagged arn p.tags }
  count (.created .model)
  return .created .model arn

/-- Deletes a model together with its tags. -/
def deleteModel (name : String) : Operation Response := do
  let b ← backend
  let (removed, models) ← require ((b.models.remove name).mapError
    fun _ => .modelNotFound (b.arn .model name))
  change fun b => { b with models }
  change fun b => { b with tags := b.tags.removeResource removed.arn }
  count (.deleted .model)
  return .done

end Operation
end NotebookSim
