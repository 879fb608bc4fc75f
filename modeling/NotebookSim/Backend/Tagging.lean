import NotebookSim.Backend
import NotebookSim.Tag.Request
/-!
Operations on tags.
-/
namespace NotebookSim

def Backend.listTags (b : Backend) (p : ListTags) : Except ServiceError Response := do
  let size ← (Page.resolveSize p.maxResults b.settings.tagPageSize
    Settings.greatestTagPage fun _ => by decide).mapError .page
  let page ← (Page.cut (b.tags.list p.resourceArn) size p.nextToken).mapError .page
  return .tags page

namespace Operation

/-- Adds or overwrites tags and answers with all tags of the ARN. -/
def addTags (p : AddTags) : Operation Response := do
  require (Tag.validateAll p.tags)
  change fun b => { b with tags := b.tags.add p.resourceArn p.tags }
  let b ← backend
  return .tagsAdded (b.tags.list p.resourceArn)

def deleteTags (p : DeleteTags) : Operation Response := do
  if p.tagKeys.contains "" then throw .emptyTagKey
  change fun b => { b with tags := b.tags.delete p.resourceArn p.tagKeys }
  return .done

end Operation
end NotebookSim
