import NotebookSim.CommandLine
import NotebookSim.Config.Printer
import NotebookSim.Replay.Report
/-!
What commands print, as text or as indented JSON. Only text is ever coloured.
-/
namespace NotebookSim

/-- A configuration, or one section of it, with the place it comes from. -/
structure ConfigReport where
  source : String
  part : Option ConfigSection
  config : Config
  deriving DecidableEq, Repr

structure ValidationReport where
  source : String
  valid : Bool
  errors : List String
  deriving DecidableEq, Repr

inductive Report where
  | replay (r : ReplayReport)
  | config (r : ConfigReport)
  | validation (r : ValidationReport)
  | instanceTypes (types : List String)

namespace ConfigReport

def heading (r : ConfigReport) : String :=
  match r.part with
  | some part => "# [" ++ part.name ++ "] from " ++ r.source
  | none => "# effective configuration from " ++ r.source

def toml (r : ConfigReport) : String :=
  match r.part with
  | some part => part.toml r.config
  | none => r.config.toml

def settings (r : ConfigReport) : Json :=
  match r.part with
  | some part => part.toJson r.config
  | none => r.config.toJson

def text (color : Bool) (r : ConfigReport) : String :=
  Text.styled color .dimmed r.heading ++ "\n" ++ r.toml

def toJson (r : ConfigReport) : Json :=
  .object ([("source", .string r.source)] ++
    Json.optionalMember "section" (r.part.map fun part => .string part.name) ++
    [("settings", r.settings)])

end ConfigReport

namespace ValidationReport

/-- A line with the verdict, and for an invalid configuration one for each error. -/
def text (color : Bool) (r : ValidationReport) : String :=
  let source := Text.styled color .bold r.source ++ " "
  if r.valid then source ++ Text.styled color .green "ok" ++ "\n"
  else
    source ++ Text.styled color .boldRed "INVALID" ++ "\n" ++
      String.join (r.errors.map fun e => "  - " ++ Text.styled color .red e ++ "\n")

def toJson (r : ValidationReport) : Json :=
  .object
    [("source", .string r.source), ("valid", .boolean r.valid), ("errors", Json.texts r.errors)]

end ValidationReport

namespace Report

def text (color : Bool) : Report → String
  | replay r => r.text color
  | config r => r.text color
  | validation r => r.text color
  | instanceTypes types => String.join (types.map (· ++ "\n"))

def toJson (requestId : Nat → String) : Report → Json
  | replay r => r.toJson requestId
  | config r => r.toJson
  | validation r => r.toJson
  | instanceTypes types =>
    .object [("count", .integer types.length), ("instance_types", Json.texts types)]

/-- The output of a command. -/
def render (format : OutputFormat) (color : Bool) (requestId : Nat → String) (r : Report) :
    String :=
  match format with
  | .text => r.text color
  | .json => (r.toJson requestId).pretty ++ "\n"

end Report
end NotebookSim
