import NotebookSim.ServiceError
import NotebookSim.Settings
/-!
The configuration: what is logged, the scope of requests that name none, and the settings of the
backends. Its values obey rules that are checked in a fixed order.
-/
namespace NotebookSim

structure Logging where
  level : String
  format : String
  deriving DecidableEq, Repr

structure Config where
  logging : Logging
  scope : Scope
  settings : Settings
  deriving DecidableEq, Repr

def Config.default : Config :=
  ⟨⟨"info", "json"⟩, ⟨"123456789012", "us-east-1"⟩, Settings.default⟩

inductive ConfigSection where
  | general
  | account
  | sagemaker
  deriving DecidableEq, Repr

inductive ConfigKey where
  | logLevel
  | logFormat
  | accountId
  | region
  | listMaxResults
  | tagPageSize
  | defaultVolumeSizeGb
  | instanceTypes
  deriving DecidableEq, Repr

namespace ConfigSection

def all : List ConfigSection := [general, account, sagemaker]

def name : ConfigSection → String
  | general => "general"
  | account => "account"
  | sagemaker => "sagemaker"

/-- The section of a name. -/
def ofName? (s : String) : Option ConfigSection := all.find? fun part => part.name == s

/-- The keys of a section in the order in which they are written. -/
def keys : ConfigSection → List ConfigKey
  | general => [.logLevel, .logFormat]
  | account => [.accountId, .region]
  | sagemaker => [.listMaxResults, .tagPageSize, .defaultVolumeSizeGb, .instanceTypes]

end ConfigSection

namespace ConfigKey

/-- All keys in the order in which their rules are checked. -/
def all : List ConfigKey := ConfigSection.all.flatMap ConfigSection.keys

theorem mem_all (key : ConfigKey) : key ∈ all := by cases key <;> decide

def part : ConfigKey → ConfigSection
  | logLevel | logFormat => .general
  | accountId | region => .account
  | listMaxResults | tagPageSize | defaultVolumeSizeGb | instanceTypes => .sagemaker

/-- The name of the key within its section. -/
def name : ConfigKey → String
  | logLevel => "log_level"
  | logFormat => "log_format"
  | accountId => "account_id"
  | region => "region"
  | listMaxResults => "list_max_results"
  | tagPageSize => "tag_page_size"
  | defaultVolumeSizeGb => "default_volume_size_gb"
  | instanceTypes => "instance_types"

/-- The name of the key in messages. -/
def field (key : ConfigKey) : String := key.part.name ++ "." ++ key.name

def logLevels : List String := ["trace", "debug", "info", "warn", "error"]

def logFormats : List String := ["json", "pretty"]

/-- Default volume sizes in gigabytes start here. -/
def leastVolumeSize : Nat := 5

/-- Whether a configuration obeys the rule of the key. -/
def holds (c : Config) : ConfigKey → Bool
  | logLevel => logLevels.contains c.logging.level
  | logFormat => logFormats.contains c.logging.format
  | accountId => Scope.isAccountId c.scope.accountId
  | region => !c.scope.region.isEmpty
  | listMaxResults =>
    decide (1 ≤ c.settings.listMaxResults ∧
      c.settings.listMaxResults ≤ Settings.greatestListPage)
  | tagPageSize =>
    decide (1 ≤ c.settings.tagPageSize ∧ c.settings.tagPageSize ≤ Settings.greatestTagPage)
  | defaultVolumeSizeGb =>
    decide (leastVolumeSize ≤ c.settings.defaultVolumeSizeGb ∧
      c.settings.defaultVolumeSizeGb ≤ ServiceError.greatestVolumeSize)
  | instanceTypes => !c.settings.instanceTypes.isEmpty

def between (least greatest : Nat) : String :=
  "must be " ++ Text.natural least ++ "-" ++ Text.natural greatest

/-- The wording of the rule. -/
def rule : ConfigKey → String
  | logLevel => "must be one of: " ++ ", ".intercalate logLevels
  | logFormat => "must be one of: " ++ ", ".intercalate logFormats
  | accountId => "must be exactly 12 digits"
  | region => "region must not be empty"
  | listMaxResults => between 1 Settings.greatestListPage
  | tagPageSize => between 1 Settings.greatestTagPage
  | defaultVolumeSizeGb => between leastVolumeSize ServiceError.greatestVolumeSize
  | instanceTypes => "allow-list must not be empty"

end ConfigKey

/-- What is said of a format that nothing can be logged in. -/
def Logging.formatError? (logging : Logging) : Option String :=
  if ConfigKey.logFormats.contains logging.format then none
  else some ("unknown log format '" ++ logging.format ++ "', expected 'json' or 'pretty'")

inductive ConfigError where
  | fileNotFound (path : String)
  | unreadable (reason : String)
  | invalidValue (field reason : String)
  deriving DecidableEq, Repr

def ConfigError.message : ConfigError → String
  | fileNotFound path => "config file not found: " ++ path
  | unreadable reason => "failed to parse config: " ++ reason
  | invalidValue field reason => "invalid config value for '" ++ field ++ "': " ++ reason

namespace Config

/-- Refuses a configuration that breaks a rule, and tells the first one. -/
def validate (c : Config) : Except ConfigError Unit :=
  match ConfigKey.all.find? fun key => !key.holds c with
  | some key => .error (.invalidValue key.field key.rule)
  | none => .ok ()

theorem validate_eq_ok_iff (c : Config) :
    c.validate = .ok () ↔ ∀ key : ConfigKey, key.holds c = true := by
  unfold validate
  split
  case h_1 key h =>
    have := List.find?_some h
    simp only [reduceCtorEq, false_iff]
    intro all
    simp [all key] at this
  case h_2 h =>
    simp only [List.find?_eq_none, Bool.not_eq_true', Bool.not_eq_false] at h
    simp only [true_iff]
    exact fun key => h key (ConfigKey.mem_all key)

end Config
end NotebookSim
