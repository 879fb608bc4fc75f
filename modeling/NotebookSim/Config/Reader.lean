import NotebookSim.Config
import NotebookSim.Toml.Reader
/-!
Configurations read from TOML. What a document leaves out keeps its default, and what it knows
beyond the keys is ignored.
-/
namespace NotebookSim

namespace ConfigKey

def text? : Toml.Value → Option String
  | .string s => some s
  | _ => none

/-- A natural number below a limit. -/
def natural? (limit : Nat) : Toml.Value → Option Nat
  | .integer i => if 0 ≤ i ∧ i < limit then some i.toNat else none
  | _ => none

def texts? : Toml.Value → Option (List String)
  | .array _ items => items.mapM text?
  | _ => none

/-- The configuration with the value of a key replaced, if the value is of the key's type. -/
def assign? (v : Toml.Value) (c : Config) : ConfigKey → Option Config
  | logLevel => (text? v).map fun s => { c with logging.level := s }
  | logFormat => (text? v).map fun s => { c with logging.format := s }
  | accountId => (text? v).map fun s => { c with scope.accountId := s }
  | region => (text? v).map fun s => { c with scope.region := s }
  | listMaxResults => (natural? (1 <<< 64) v).map fun n => { c with settings.listMaxResults := n }
  | tagPageSize => (natural? (1 <<< 64) v).map fun n => { c with settings.tagPageSize := n }
  | defaultVolumeSizeGb =>
    (natural? (1 <<< 32) v).map fun n => { c with settings.defaultVolumeSizeGb := n }
  | instanceTypes => (texts? v).map fun ss => { c with settings.instanceTypes := ss }

end ConfigKey

namespace ConfigSection

/-- Reads a section into a configuration. An array gives the values of the first keys in order;
a moment in time gives none. -/
def assign? (part : ConfigSection) (v : Toml.Value) (c : Config) : Option Config :=
  match v with
  | .table _ entries =>
    part.keys.foldlM (fun c key =>
      match entries.lookup key.name with
      | some v => key.assign? v c
      | none => some c) c
  | .array _ items =>
    if items.length ≤ part.keys.length then
      (part.keys.zip items).foldlM (fun c (key, v) => key.assign? v c) c
    else none
  | .moment _ => some c
  | _ => none

end ConfigSection

namespace Config

/-- The configuration that a document's root table gives. -/
def ofEntries? (entries : Toml.Entries) : Option Config :=
  ConfigSection.all.foldlM (fun c part =>
    match entries.lookup part.name with
    | some v => part.assign? v c
    | none => some c) Config.default

/-- Stands for the reason why a text is no configuration, which is not told. -/
def untoldReason : String := "<reason>"

/-- The configuration written in a text; its rules are not checked. -/
def parse (text : String) : Except ConfigError Config :=
  match (Toml.parse text).bind ofEntries? with
  | some c => .ok c
  | none => .error (.unreadable untoldReason)

end Config
end NotebookSim
