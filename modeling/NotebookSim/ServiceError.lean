import NotebookSim.Notebook.Status
import NotebookSim.Page
import NotebookSim.Resource
import NotebookSim.Tag
/-!
The reasons for which the service refuses a request. Every refusal carries the same code; the
message names the cause.
-/
namespace NotebookSim

/-- The wire form of a refusal. -/
structure ErrorBody where
  code : String
  message : String
  deriving DecidableEq, Repr

namespace ErrorBody

def display (body : ErrorBody) : String := body.code ++ ": " ++ body.message

def toJson (body : ErrorBody) : Json :=
  .object [("Code", .string body.code), ("Message", .string body.message)]

/-- The one code the service uses. -/
def validation : String := "ValidationException"

def fields : Fields ErrorBody :=
  Fields.pure ErrorBody.mk
    |>.and (.required "Code" (Reader.choice [(validation, validation)]))
    |>.and (.required "Message" Reader.text)

def reader : Reader ErrorBody := fields.reader "ServiceError"

end ErrorBody

/-- What a request wanted to do with a lifecycle configuration that does not exist. -/
inductive ConfigVerb where
  | describe
  | update
  | delete
  deriving DecidableEq, Repr

def ConfigVerb.name : ConfigVerb → String
  | describe => "describe"
  | update => "update"
  | delete => "delete"

inductive ServiceError where
  | accountId (found : String)
  | emptyRegion
  | malformed (misfit : Misfit)
  | page (error : PageError)
  | tagKey (position : Nat) (key : String)
  | tagValue (position : Nat) (value : String)
  | emptyTagKey
  | instanceType (found : String) (allowed : List String)
  | volumeSize (found : Nat)
  | duplicateNotebook (arn : String)
  | notebookNotFound
  | notDeletable (status : NotebookStatus) (arn : String)
  | transition (status next : NotebookStatus) (arn : String)
  | duplicateConfig (arn : String)
  | configNotFound (verb : ConfigVerb) (arn : String)
  | duplicateModel (arn : String)
  | modelNotFound (arn : String)
  deriving Repr

namespace ServiceError

/-- Volume sizes in gigabytes lie between these, both included. -/
def leastVolumeSize : Nat := 5
def greatestVolumeSize : Nat := 16384

/-- A value that breaks a constraint of the member it was given for. -/
def constraint (value member rule : String) : String :=
  "Value '" ++ value ++ "' at '" ++ member ++ "' failed to satisfy constraint: Member must " ++
    rule

def lifecycleConfig : String := "Notebook Instance Lifecycle Config"

def message : ServiceError → String
  | accountId found => constraint found "accountId" "be a 12-digit account ID"
  | emptyRegion => constraint "" "region" "not be empty"
  | malformed misfit => misfit.message
  | page error => error.message
  | tagKey position key =>
    constraint key ("tags." ++ Text.natural position ++ ".member.key")
      ("have length between 1 and " ++ Text.natural Tag.greatestKeyLength)
  | tagValue position value =>
    constraint value ("tags." ++ Text.natural position ++ ".member.value")
      ("have length less than or equal to " ++ Text.natural Tag.greatestValueLength)
  | emptyTagKey => constraint "" "tagKeys" "have length greater than or equal to 1"
  | instanceType found allowed =>
    constraint found "instanceType"
      ("satisfy enum value set: [" ++ ", ".intercalate allowed ++ "]")
  | volumeSize found =>
    constraint (Text.natural found) "volumeSizeInGB"
      ("have value between " ++ Text.natural leastVolumeSize ++ " and " ++
        Text.natural greatestVolumeSize)
  | duplicateNotebook arn => "Cannot create a duplicate Notebook Instance (" ++ arn ++ ")"
  | notebookNotFound => "RecordNotFound"
  | notDeletable status arn =>
    "Status (" ++ status.name ++ ") not in ([Stopped, Failed]). Unable to transition to " ++
      "(Deleting) for Notebook Instance (" ++ arn ++ ")"
  | transition status next arn =>
    "Status (" ++ status.name ++ ") cannot transition to (" ++ next.name ++
      ") for Notebook Instance (" ++ arn ++ ")"
  | duplicateConfig arn =>
    "Unable to create " ++ lifecycleConfig ++ " " ++ arn ++ ". (Details: " ++ lifecycleConfig ++
      " already exists.)"
  | configNotFound verb arn =>
    "Unable to " ++ verb.name ++ " " ++ lifecycleConfig ++ " '" ++ arn ++ "'. (Details: " ++
      lifecycleConfig ++ " does not exist.)"
  | duplicateModel arn => "Cannot create already existing model \"" ++ arn ++ "\"."
  | modelNotFound arn => "Could not find model \"" ++ arn ++ "\"."

def body (error : ServiceError) : ErrorBody := ⟨ErrorBody.validation, error.message⟩

end ServiceError

/-- Refuses a scope whose account identifier or region is not well formed; the account comes
first. -/
def Scope.validate (scope : Scope) : Except ServiceError Unit :=
  if !Scope.isAccountId scope.accountId then .error (.accountId scope.accountId)
  else if scope.region.isEmpty then .error .emptyRegion
  else .ok ()

/-- Refuses the first tag, counted from `position`, whose key or value has a wrong length. -/
def Tag.validateFrom (position : Nat) : List Tag → Except ServiceError Unit
  | [] => .ok ()
  | tag :: tags =>
    if !tag.hasValidKey then .error (.tagKey position tag.key)
    else if !tag.hasValidValue then .error (.tagValue position tag.value)
    else Tag.validateFrom (position + 1) tags

def Tag.validateAll (tags : List Tag) : Except ServiceError Unit := Tag.validateFrom 1 tags

end NotebookSim
