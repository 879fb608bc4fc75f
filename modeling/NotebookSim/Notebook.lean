import NotebookSim.Listing.Request
import NotebookSim.Notebook.Status
import NotebookSim.Tag
/-!
Notebook instances: the stored record, its summary in listings, and the requests about it.
-/
namespace NotebookSim

/-- A permission that is given unless it is taken away. -/
inductive Access where
  | enabled
  | disabled
  deriving DecidableEq, Repr

namespace Access

def name : Access → String
  | enabled => "Enabled"
  | disabled => "Disabled"

def reader : Reader Access := Reader.choice ([enabled, disabled].map fun a => (a.name, a))

end Access

structure NotebookInstance where
  arn : String
  name : String
  status : NotebookStatus
  url : String
  instanceType : String
  subnetId : Option String
  securityGroupIds : List String
  roleArn : String
  kmsKeyId : Option String
  lifecycleConfigName : Option String
  directInternetAccess : Access
  volumeSizeInGb : Nat
  acceleratorTypes : List String
  defaultCodeRepository : Option String
  additionalCodeRepositories : List String
  rootAccess : Access
  creationTime : Timestamp
  lastModifiedTime : Timestamp
  deriving DecidableEq, Repr

instance : Record NotebookInstance where
  kind := .notebookInstance
  name := NotebookInstance.name
  creationTime := NotebookInstance.creationTime
  lastModifiedTime := NotebookInstance.lastModifiedTime

/-- What listings tell of an instance. -/
structure NotebookSummary where
  name : String
  arn : String
  status : NotebookStatus
  url : String
  instanceType : String
  creationTime : Timestamp
  lastModifiedTime : Timestamp
  lifecycleConfigName : Option String
  defaultCodeRepository : Option String
  additionalCodeRepositories : List String
  deriving DecidableEq, Repr

namespace NotebookInstance

def summary (r : NotebookInstance) : NotebookSummary :=
  ⟨r.name, r.arn, r.status, r.url, r.instanceType, r.creationTime, r.lastModifiedTime,
    r.lifecycleConfigName, r.defaultCodeRepository, r.additionalCodeRepositories⟩

/-- The members of the record as it is described. -/
def members (r : NotebookInstance) : List (String × Json) :=
  [("NotebookInstanceArn", .string r.arn),
    ("NotebookInstanceName", .string r.name),
    ("NotebookInstanceStatus", .string r.status.name),
    ("Url", .string r.url),
    ("InstanceType", .string r.instanceType)] ++
  Json.optionalMember "SubnetId" (r.subnetId.map .string) ++
  Json.nonemptyTexts "SecurityGroups" r.securityGroupIds ++
  [("RoleArn", .string r.roleArn)] ++
  Json.optionalMember "KmsKeyId" (r.kmsKeyId.map .string) ++
  Json.optionalMember "NotebookInstanceLifecycleConfigName"
    (r.lifecycleConfigName.map .string) ++
  [("DirectInternetAccess", .string r.directInternetAccess.name),
    ("VolumeSizeInGB", .integer r.volumeSizeInGb)] ++
  Json.nonemptyTexts "AcceleratorTypes" r.acceleratorTypes ++
  Json.optionalMember "DefaultCodeRepository" (r.defaultCodeRepository.map .string) ++
  Json.nonemptyTexts "AdditionalCodeRepositories" r.additionalCodeRepositories ++
  [("RootAccess", .string r.rootAccess.name),
    ("CreationTime", r.creationTime.toJson),
    ("LastModifiedTime", r.lastModifiedTime.toJson)]

end NotebookInstance

def NotebookSummary.toJson (s : NotebookSummary) : Json :=
  .object (
    [("NotebookInstanceName", .string s.name),
      ("NotebookInstanceArn", .string s.arn),
      ("NotebookInstanceStatus", .string s.status.name),
      ("Url", .string s.url),
      ("InstanceType", .string s.instanceType),
      ("CreationTime", s.creationTime.toJson),
      ("LastModifiedTime", s.lastModifiedTime.toJson)] ++
    Json.optionalMember "NotebookInstanceLifecycleConfigName"
      (s.lifecycleConfigName.map .string) ++
    Json.optionalMember "DefaultCodeRepository" (s.defaultCodeRepository.map .string) ++
    Json.nonemptyTexts "AdditionalCodeRepositories" s.additionalCodeRepositories)

/-- A request for a new instance. -/
structure CreateNotebook where
  name : String
  instanceType : String
  roleArn : String
  subnetId : Option String
  securityGroupIds : List String
  kmsKeyId : Option String
  tags : List Tag
  lifecycleConfigName : Option String
  directInternetAccess : Option Access
  volumeSizeInGb : Option Nat
  acceleratorTypes : List String
  defaultCodeRepository : Option String
  additionalCodeRepositories : List String
  rootAccess : Option Access
  deriving DecidableEq, Repr

namespace CreateNotebook

/-- A request that gives only what is required. -/
def minimal (name instanceType roleArn : String) : CreateNotebook :=
  ⟨name, instanceType, roleArn, none, [], none, [], none, none, none, [], none, [], none⟩

def fields : Fields CreateNotebook :=
  Fields.pure CreateNotebook.mk
    |>.and (.required "NotebookInstanceName" Reader.text)
    |>.and (.required "InstanceType" Reader.text)
    |>.and (.required "RoleArn" Reader.text)
    |>.and (.optional "SubnetId" Reader.text)
    |>.and (.withDefault "SecurityGroupIds" (Reader.list Reader.text) [])
    |>.and (.optional "KmsKeyId" Reader.text)
    |>.and (.withDefault "Tags" (Reader.list Tag.reader) [])
    |>.and (.optional "LifecycleConfigName" Reader.text)
    |>.and (.optional "DirectInternetAccess" Access.reader)
    |>.and (.optional "VolumeSizeInGB" Reader.volume)
    |>.and (.withDefault "AcceleratorTypes" (Reader.list Reader.text) [])
    |>.and (.optional "DefaultCodeRepository" Reader.text)
    |>.and (.withDefault "AdditionalCodeRepositories" (Reader.list Reader.text) [])
    |>.and (.optional "RootAccess" Access.reader)

def reader : Reader CreateNotebook := fields.reader "CreateNotebookInstanceParams"

end CreateNotebook

/-- The name of the instance that an operation is about. -/
def notebookName : Reader String :=
  (Fields.ofText "NotebookInstanceName").reader "NotebookInstanceNameParams"

inductive NotebookSortKey where
  | name
  | creationTime
  | status
  deriving DecidableEq, Repr

namespace NotebookSortKey

def reader : Reader NotebookSortKey :=
  Reader.choice [("Name", .name), ("CreationTime", .creationTime), ("Status", .status)]

/-- Statuses sort by their names. -/
def sort : NotebookSortKey → List NotebookInstance → List NotebookInstance
  | name => SortKey.name.sort
  | creationTime => SortKey.creationTime.sort
  | status => fun rs => rs.mergeSort fun a b => nameLe a.status.name b.status.name

end NotebookSortKey

structure ListNotebooks extends ListRequest NotebookSortKey where
  statusEquals : Option NotebookStatus
  lifecycleConfigNameContains : Option String
  defaultCodeRepositoryContains : Option String
  additionalCodeRepositoryEquals : Option String
  deriving DecidableEq, Repr

namespace ListNotebooks

/-- The filters that only notebook instances have; a filter on an absent value matches nothing. -/
def selects (p : ListNotebooks) (r : NotebookInstance) : Bool :=
  p.statusEquals.all (fun s => r.status == s) &&
    p.lifecycleConfigNameContains.all
      (fun needle => r.lifecycleConfigName.any fun n => Text.contains n needle) &&
    p.defaultCodeRepositoryContains.all
      (fun needle => r.defaultCodeRepository.any fun repo => Text.contains repo needle) &&
    p.additionalCodeRepositoryEquals.all
      (fun repo => r.additionalCodeRepositories.contains repo)

def fields : Fields ListNotebooks :=
  ListRequest.fieldsWithModified NotebookSortKey.reader ListNotebooks.mk
    |>.and (.omittable "StatusEquals" NotebookStatus.reader)
    |>.and (.omittable "NotebookInstanceLifecycleConfigNameContains" Reader.text)
    |>.and (.omittable "DefaultCodeRepositoryContains" Reader.text)
    |>.and (.omittable "AdditionalCodeRepositoryEquals" Reader.text)

def reader : Reader ListNotebooks := fields.reader "ListNotebookInstancesParams"

end ListNotebooks
end NotebookSim
