import NotebookSim.Config
import NotebookSim.Json
import NotebookSim.Toml.Printer
/-!
Configurations as TOML, in the order of sections and keys, and as JSON, sorted by name.
-/
namespace NotebookSim

/-- The value of a key. -/
def ConfigKey.datum (c : Config) : ConfigKey → Toml.Datum
  | logLevel => .string c.logging.level
  | logFormat => .string c.logging.format
  | accountId => .string c.scope.accountId
  | region => .string c.scope.region
  | listMaxResults => .natural c.settings.listMaxResults
  | tagPageSize => .natural c.settings.tagPageSize
  | defaultVolumeSizeGb => .natural c.settings.defaultVolumeSizeGb
  | instanceTypes => .strings c.settings.instanceTypes

def Toml.Datum.toJson : Toml.Datum → Json
  | .string s => .string s
  | .natural n => .integer n
  | .strings ss => Json.texts ss

namespace ConfigSection

def entries (part : ConfigSection) (c : Config) : List (String × Toml.Datum) :=
  part.keys.map fun key => (key.name, key.datum c)

/-- The lines of a section, without its header. -/
def toml (part : ConfigSection) (c : Config) : String :=
  String.ofList (Toml.linesOf (part.entries c))

def toJson (part : ConfigSection) (c : Config) : Json :=
  Json.ofMembers ((part.entries c).map fun (name, d) => (name, d.toJson))

end ConfigSection

namespace Config

/-- The whole configuration as a document. -/
def toml (c : Config) : String :=
  String.ofList (Toml.document (ConfigSection.all.map fun part => (part.name, part.entries c)))

def toJson (c : Config) : Json :=
  Json.ofMembers (ConfigSection.all.map fun part => (part.name, part.toJson c))

end Config
end NotebookSim
