import NotebookSim.Listing.Request
import NotebookSim.Tag
/-!
Models: what inference containers would be started with. A model does not change once created.
-/
namespace NotebookSim

structure ContainerDefinition where
  image : Option String
  modelDataUrl : Option String
  environment : List (String × String)
  deriving DecidableEq, Repr

namespace ContainerDefinition

def fields : Fields ContainerDefinition :=
  Fields.pure ContainerDefinition.mk
    |>.and (.omittable "Image" Reader.text)
    |>.and (.omittable "ModelDataUrl" Reader.text)
    |>.and (.withDefault "Environment" Reader.dictionary [])

def reader : Reader ContainerDefinition := fields.reader "ContainerDefinition"

def toJson (c : ContainerDefinition) : Json :=
  .object (
    Json.optionalMember "Image" (c.image.map .string) ++
    Json.optionalMember "ModelDataUrl" (c.modelDataUrl.map .string) ++
    (if c.environment.isEmpty then []
      else [("Environment", .object (c.environment.map fun (k, v) => (k, .string v)))]))

end ContainerDefinition

structure Model where
  arn : String
  name : String
  primaryContainer : Option ContainerDefinition
  executionRoleArn : String
  enableNetworkIsolation : Bool
  creationTime : Timestamp
  deriving DecidableEq, Repr

instance : Record Model where
  kind := .model
  name := Model.name
  creationTime := Model.creationTime
  lastModifiedTime := Model.creationTime

/-- What listings tell of a model. -/
structure ModelSummary where
  name : String
  arn : String
  creationTime : Timestamp
  deriving DecidableEq, Repr

namespace Model

def summary (r : Model) : ModelSummary := ⟨r.name, r.arn, r.creationTime⟩

/-- The members of the record as it is described. -/
def members (r : Model) : List (String × Json) :=
  [("ModelArn", .string r.arn),
    ("ModelName", .string r.name)] ++
  Json.optionalMember "PrimaryContainer" (r.primaryContainer.map ContainerDefinition.toJson) ++
  [("ExecutionRoleArn", .string r.executionRoleArn),
    ("EnableNetworkIsolation", .boolean r.enableNetworkIsolation),
    ("CreationTime", r.creationTime.toJson)]

end Model

def ModelSummary.toJson (s : ModelSummary) : Json :=
  .object
    [("ModelName", .string s.name), ("ModelArn", .string s.arn),
      ("CreationTime", s.creationTime.toJson)]

structure CreateModel where
  name : String
  executionRoleArn : String
  primaryContainer : Option ContainerDefinition
  enableNetworkIsolation : Bool
  tags : List Tag
  deriving DecidableEq, Repr

namespace CreateModel

/-- A request that gives only what is required. -/
def minimal (name executionRoleArn : String) : CreateModel :=
  ⟨name, executionRoleArn, none, false, []⟩

def fields : Fields CreateModel :=
  Fields.pure CreateModel.mk
    |>.and (.required "ModelName" Reader.text)
    |>.and (.required "ExecutionRoleArn" Reader.text)
    |>.and (.optional "PrimaryContainer" ContainerDefinition.reader)
    |>.and (.withDefault "EnableNetworkIsolation" Reader.boolean false)
    |>.and (.withDefault "Tags" (Reader.list Tag.reader) [])

def reader : Reader CreateModel := fields.reader "CreateModelParams"

end CreateModel

/-- The name of the model that an operation is about. -/
def modelName : Reader String :=
  (Fields.ofText "ModelName").reader "ModelNameParams"

abbrev ListModels := ListRequest SortKey

namespace ListModels

def fields : Fields ListModels :=
  ListRequest.fields (Reader.choice [("Name", SortKey.name), ("CreationTime", .creationTime)])

def reader : Reader ListModels := fields.reader "ListModelsParams"

end ListModels

end NotebookSim
