import NotebookSim.Listing.Request
import NotebookSim.Tag
/-!
Lifecycle configurations: scripts that notebook instances refer to by name. Nothing checks the
references.
-/
namespace NotebookSim

/-- A script, base64 encoded by the client. -/
structure LifecycleHook where
  content : String
  deriving DecidableEq, Repr

namespace LifecycleHook

def fields : Fields LifecycleHook :=
  Fields.pure LifecycleHook.mk
    |>.and (.required "Content" Reader.text)

def reader : Reader LifecycleHook := fields.reader "LifecycleHook"

def toJson (hook : LifecycleHook) : Json := .object [("Content", .string hook.content)]

end LifecycleHook

structure LifecycleConfig where
  arn : String
  name : String
  onCreate : List LifecycleHook
  onStart : List LifecycleHook
  creationTime : Timestamp
  lastModifiedTime : Timestamp
  deriving DecidableEq, Repr

instance : Record LifecycleConfig where
  kind := .lifecycleConfig
  name := LifecycleConfig.name
  creationTime := LifecycleConfig.creationTime
  lastModifiedTime := LifecycleConfig.lastModifiedTime

/-- What listings tell of a configuration. -/
structure LifecycleConfigSummary where
  name : String
  arn : String
  creationTime : Timestamp
  lastModifiedTime : Timestamp
  deriving DecidableEq, Repr

namespace LifecycleConfig

def summary (r : LifecycleConfig) : LifecycleConfigSummary :=
  ⟨r.name, r.arn, r.creationTime, r.lastModifiedTime⟩

/-- The members of the record as it is described. -/
def members (r : LifecycleConfig) : List (String × Json) :=
  [("NotebookInstanceLifecycleConfigArn", .string r.arn),
    ("NotebookInstanceLifecycleConfigName", .string r.name),
    ("OnCreate", .array (r.onCreate.map LifecycleHook.toJson)),
    ("OnStart", .array (r.onStart.map LifecycleHook.toJson)),
    ("CreationTime", r.creationTime.toJson),
    ("LastModifiedTime", r.lastModifiedTime.toJson)]

end LifecycleConfig

def LifecycleConfigSummary.toJson (s : LifecycleConfigSummary) : Json :=
  .object
    [("NotebookInstanceLifecycleConfigName", .string s.name),
      ("NotebookInstanceLifecycleConfigArn", .string s.arn),
      ("CreationTime", s.creationTime.toJson),
      ("LastModifiedTime", s.lastModifiedTime.toJson)]

structure CreateLifecycleConfig where
  name : String
  onCreate : List LifecycleHook
  onStart : List LifecycleHook
  tags : List Tag
  deriving DecidableEq, Repr

namespace CreateLifecycleConfig

def fields : Fields CreateLifecycleConfig :=
  Fields.pure CreateLifecycleConfig.mk
    |>.and (.required "NotebookInstanceLifecycleConfigName" Reader.text)
    |>.and (.withDefault "OnCreate" (Reader.list LifecycleHook.reader) [])
    |>.and (.withDefault "OnStart" (Reader.list LifecycleHook.reader) [])
    |>.and (.withDefault "Tags" (Reader.list Tag.reader) [])

def reader : Reader CreateLifecycleConfig := fields.reader "CreateLifecycleConfigParams"

end CreateLifecycleConfig

/-- A change of the script lists that are given. -/
structure UpdateLifecycleConfig where
  name : String
  onCreate : Option (List LifecycleHook)
  onStart : Option (List LifecycleHook)
  deriving DecidableEq, Repr

namespace UpdateLifecycleConfig

def fields : Fields UpdateLifecycleConfig :=
  Fields.pure UpdateLifecycleConfig.mk
    |>.and (.required "NotebookInstanceLifecycleConfigName" Reader.text)
    |>.and (.optional "OnCreate" (Reader.list LifecycleHook.reader))
    |>.and (.optional "OnStart" (Reader.list LifecycleHook.reader))

def reader : Reader UpdateLifecycleConfig := fields.reader "UpdateLifecycleConfigParams"

/-- The configuration after the change. -/
def apply (p : UpdateLifecycleConfig) (now : Timestamp) (r : LifecycleConfig) :
    LifecycleConfig :=
  { r with
    onCreate := p.onCreate.getD r.onCreate
    onStart := p.onStart.getD r.onStart
    lastModifiedTime := now }

end UpdateLifecycleConfig

/-- The name of the configuration that an operation is about. -/
def lifecycleConfigName : Reader String :=
  (Fields.ofText "NotebookInstanceLifecycleConfigName").reader "LifecycleConfigNameParams"

abbrev ListLifecycleConfigs := ListRequest SortKey

namespace ListLifecycleConfigs

def fields : Fields ListLifecycleConfigs :=
  ListRequest.fieldsWithModified (Reader.choice
    [("Name", SortKey.name), ("CreationTime", .creationTime),
      ("LastModifiedTime", .lastModifiedTime)]) id

def reader : Reader ListLifecycleConfigs := fields.reader "ListLifecycleConfigsParams"

end ListLifecycleConfigs

end NotebookSim
