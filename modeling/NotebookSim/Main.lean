import NotebookSim.CommandLine.Execution
import NotebookSim.CommandLine.Usage
import NotebookSim.Reply
import Std.Time.DateTime.Timestamp
/-!
The program: it gathers what a command can see, carries the command out, prints the report and
tells the error.
-/
namespace NotebookSim

/-- Whether output is coloured: a forced choice counts first, then whether a terminal reads it. -/
def isColored (isTerminal : Bool) (force noColor wish : Option String) : Bool :=
  if force.any (· ≠ "0") then true
  else noColor.isNone && isTerminal && wish != some "0"

namespace Program

/-- The text of a file. -/
def readText (path : String) : IO (Except FileError String) := do
  try
    let bytes ← IO.FS.readBinFile path
    match String.fromUTF8? bytes with
    | some s => return .ok s
    | none => return .error .notUtf8
  catch
    | .noFileOrDirectory .. => return .error .notFound
    | .inappropriateType .. => return .error .directory
    | e => return .error (.other e.toString)

/-- The files that a command may ask for, read in advance. -/
def readFiles (i : Invocation) : IO Files := do
  let config ← readText i.configPath
  match i.command with
  | .run r =>
    let script ← readText r.script
    return fun path => if path = r.script then script else config
  | _ => return fun _ => config

/-- The variables that override the configuration. -/
def readEnvironment : IO Environment := do
  let values ← ConfigKey.all.mapM fun key => return (key.envName, ← IO.getEnv key.envName)
  return fun name => (values.lookup name).join

def now : IO Timestamp := do
  let t ← Std.Time.Timestamp.now
  return ⟨t.toNanosecondsSinceUnixEpoch.toInt⟩

def newRequestId : IO String := do
  let bytes ← IO.getRandomBytes 16
  return RequestId.ofBytes (bytes.toList.map UInt8.toNat)

/-- How many request identifiers a report shows. -/
def requestIdCount : Report → Nat
  | .replay r => r.entries.length
  | _ => 0

def writeReport (format : OutputFormat) (report : Report) : IO Unit := do
  let stdout ← IO.getStdout
  let color := isColored (← stdout.isTty) (← IO.getEnv "CLICOLOR_FORCE") (← IO.getEnv "NO_COLOR")
    (← IO.getEnv "CLICOLOR")
  let ids ← (List.range (requestIdCount report)).mapM fun _ => newRequestId
  stdout.putStr (report.render format color fun index => ids.getD (index - 1) "")

def refuse (e : UsageError) : IO UInt32 := do
  let stream ← if e.exitCode = 0 then IO.getStdout else IO.getStderr
  stream.putStr (CommandLine.told e)
  return UInt32.ofNat e.exitCode

/-- The exit code of a run that stopped without a report. -/
def haltedCode : UInt32 := 134

def carryOut (i : Invocation) : IO UInt32 := do
  let start ← now
  let around : Surroundings := ⟨← readFiles i, ← readEnvironment, fun _ => start⟩
  let stderr ← IO.getStderr
  match CommandLine.execute around i with
  | .error .timeOverflow =>
    stderr.putStrLn "error: a time bound is out of range"
    return haltedCode
  | .ok outcome =>
    if let some report := outcome.report then writeReport i.output report
    if let some e := outcome.error then stderr.putStrLn ("error: " ++ e.message)
    return UInt32.ofNat outcome.exitCode

end Program
end NotebookSim

def main (args : List String) : IO UInt32 :=
  match NotebookSim.CommandLine.parse args with
  | .error e => NotebookSim.Program.refuse e
  | .ok i => NotebookSim.Program.carryOut i
