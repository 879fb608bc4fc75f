import NotebookSim.Metrics.Exposition
import NotebookSim.Replay
import NotebookSim.Text.Styled
/-!
The report of a replay, as text and as JSON.
-/
namespace NotebookSim

namespace ReplayEntry

/-- A line for the request, and one for the body of an answer that has members. -/
def text (color : Bool) (e : ReplayEntry) : String :=
  let line := "[" ++ Text.natural e.index ++ "] " ++ e.reply.action ++ " "
  match e.reply.result with
  | .ok response =>
    line ++ Text.styled color .green "OK" ++ "\n" ++
      if response.members.isEmpty then ""
      else "    " ++ (Json.object response.members).compact ++ "\n"
  | .error e =>
    line ++ Text.styled color .boldRed "FAILED" ++ " " ++ Text.styled color .red e.body.display ++
      "\n"

def toJson (requestId : String) (e : ReplayEntry) : Json :=
  .object
    [("Index", .integer e.index),
      ("Action", .string e.reply.action),
      ("Response", e.reply.toJson requestId)]

end ReplayEntry

namespace ReplayReport

def totals (report : ReplayReport) : String :=
  Text.natural report.entries.length ++ " requests, " ++ Text.natural report.succeeded ++
    " succeeded, " ++ Text.natural report.failed ++ " failed\n"

/-- The entries, the totals, and after a blank line the metrics. -/
def text (color : Bool) (report : ReplayReport) : String :=
  String.join (report.entries.map (ReplayEntry.text color)) ++ report.totals ++
    match report.metrics with
    | some m => "\n" ++ m.exposition
    | none => ""

/-- The report as JSON; the request identifiers are chosen by the caller. -/
def toJson (requestId : Nat → String) (report : ReplayReport) : Json :=
  .object (
    [("Succeeded", .integer report.succeeded),
      ("Failed", .integer report.failed),
      ("Replies", .array (report.entries.map fun e => e.toJson (requestId e.index)))] ++
    Json.optionalMember "Metrics" (report.metrics.map fun m => .string m.exposition))

end ReplayReport
end NotebookSim
