import NotebookSim.LifecycleConfig
import NotebookSim.Model
import NotebookSim.Notebook
/-!
What the service answers to an accepted request.
-/
namespace NotebookSim

inductive Response where
  | created (kind : ResourceKind) (arn : String)
  | notebook (r : NotebookInstance)
  | notebooks (page : Page NotebookSummary)
  | lifecycleConfig (r : LifecycleConfig)
  | lifecycleConfigs (page : Page LifecycleConfigSummary)
  | model (r : Model)
  | models (page : Page ModelSummary)
  | tagsAdded (tags : List Tag)
  | tags (page : Page Tag)
  | done
  deriving DecidableEq, Repr

namespace Response

/-- The member under which a new resource's ARN is given. -/
def arnMember : ResourceKind → String
  | .notebookInstance => "NotebookInstanceArn"
  | .lifecycleConfig => "NotebookInstanceLifecycleConfigArn"
  | .model => "ModelArn"

def pageMembers {α : Type} (name : String) (toJson : α → Json) (page : Page α) :
    List (String × Json) :=
  (name, .array (page.items.map toJson)) ::
    Json.optionalMember "NextToken" (page.nextToken.map .string)

def members : Response → List (String × Json)
  | created kind arn => [(arnMember kind, .string arn)]
  | notebook r => r.members
  | notebooks page => pageMembers "NotebookInstances" NotebookSummary.toJson page
  | lifecycleConfig r => r.members
  | lifecycleConfigs page =>
    pageMembers "NotebookInstanceLifecycleConfigs" LifecycleConfigSummary.toJson page
  | model r => r.members
  | models page => pageMembers "Models" ModelSummary.toJson page
  | tagsAdded all => [("Tags", .array (all.map Tag.toJson))]
  | tags page => pageMembers "Tags" Tag.toJson page
  | done => []

end Response
end NotebookSim
