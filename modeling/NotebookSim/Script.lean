import NotebookSim.Json.Parser
import NotebookSim.Text.Digits
/-!
Scripts: JSON texts that hold one request or an array of requests, each an object.
-/
namespace NotebookSim

inductive ScriptError where
  | notJson
  /-- An element of the array, counted from 1, is not an object. -/
  | notObject (position : Nat)
  | notRequests
  deriving DecidableEq, Repr

def ScriptError.message : ScriptError → String
  | notJson => "<json>"
  | notObject position => "entry #" ++ Text.natural position ++ " is not a JSON object"
  | notRequests => "expected a JSON object or an array of objects"

namespace Script

def isObject : Json → Bool
  | .object _ => true
  | _ => false

/-- The requests that a JSON value stands for. -/
def requests : Json → Except ScriptError (List Json)
  | .array items =>
    match items.findIdx? fun j => !isObject j with
    | some i => .error (.notObject (i + 1))
    | none => .ok items
  | .object members => .ok [.object members]
  | _ => .error .notRequests

def parse (text : String) : Except ScriptError (List Json) :=
  match Json.parse text with
  | some j => requests j
  | none => .error .notJson

end Script
end NotebookSim
