import NotebookSim.Config
import NotebookSim.Text
/-!
Environment variables that override the configuration. A text overrides as it is; a number that
cannot be read is passed over; a list is separated by commas.
-/
namespace NotebookSim

/-- The values of the variables that are set. -/
abbrev Environment := String → Option String

namespace Environment

/-- The parts of a text between its commas. -/
def parts : List Char → List (List Char)
  | [] => [[]]
  | ',' :: cs => [] :: parts cs
  | c :: cs =>
    match parts cs with
    | [] => [[c]]
    | p :: ps => (c :: p) :: ps

/-- The items of a list: trimmed, and without the empty ones. -/
def items (s : String) : List String :=
  ((parts s.toList).map fun cs => Text.trim (String.ofList cs)).filter fun item => !item.isEmpty

end Environment

namespace ConfigKey

/-- The variable that overrides a key. -/
def envName (key : ConfigKey) : String :=
  "SAGESIM_" ++ (key.part.name ++ "_" ++ key.name).map Char.toUpper

/-- The configuration with a key overridden by the value of its variable. -/
def override (value : String) (c : Config) : ConfigKey → Config
  | logLevel => { c with logging.level := value }
  | logFormat => { c with logging.format := value }
  | accountId => { c with scope.accountId := value }
  | region => { c with scope.region := value }
  | listMaxResults =>
    { c with settings.listMaxResults :=
      (Text.bounded? (1 <<< 64) value).getD c.settings.listMaxResults }
  | tagPageSize =>
    { c with settings.tagPageSize :=
      (Text.bounded? (1 <<< 64) value).getD c.settings.tagPageSize }
  | defaultVolumeSizeGb =>
    { c with settings.defaultVolumeSizeGb :=
      (Text.bounded? (1 <<< 32) value).getD c.settings.defaultVolumeSizeGb }
  | instanceTypes => { c with settings.instanceTypes := Environment.items value }

end ConfigKey

/-- The configuration with every key overridden whose variable is set. -/
def Config.override (env : Environment) (c : Config) : Config :=
  ConfigKey.all.foldl (fun c key =>
    match env key.envName with
    | some value => key.override value c
    | none => c) c

end NotebookSim
