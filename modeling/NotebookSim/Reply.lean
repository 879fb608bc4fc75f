import NotebookSim.Response
import NotebookSim.ServiceError
/-!
The reply to a request: the action as the request gave it, and what the service answered. It goes
out under an identifier of its own.
-/
namespace NotebookSim

structure Reply where
  action : String
  result : Except ServiceError Response

namespace Reply

def error? (reply : Reply) : Option ServiceError :=
  match reply.result with
  | .ok _ => none
  | .error e => some e

def isError (reply : Reply) : Bool := reply.error?.isSome

def statusCode (reply : Reply) : Nat := if reply.isError then 400 else 200

/-- The members of the body: the answer's own, or the refusal under one name. -/
def body (reply : Reply) : List (String × Json) :=
  match reply.result with
  | .ok response => response.members
  | .error e => [("Error", e.body.toJson)]

/-- The body followed by the metadata; the request identifier is chosen by the caller. -/
def toJson (reply : Reply) (requestId : String) : Json :=
  .object (reply.body ++
    [("ResponseMetadata", .object
      [("RequestId", .string requestId), ("HTTPStatusCode", .integer reply.statusCode)])])

end Reply

/-! ## Identifiers -/

namespace RequestId

def byteText (b : Nat) : List Char := ((Text.hex4 b).drop 2).map Char.toLower

/-- The bytes with the version and the variant of a random UUID, version 4, written into them. -/
def stamped (bytes : List Nat) : List Nat :=
  bytes.zipIdx.map fun (b, i) =>
    if i = 6 then 0x40 + b % 0x10 else if i = 8 then 0x80 + b % 0x40 else b % 0x100

/-- The identifier of sixteen random bytes, in groups of 4, 2, 2, 2 and 6 bytes. -/
def ofBytes (bytes : List Nat) : String :=
  let text := (stamped bytes).flatMap byteText
  String.ofList (text.take 8 ++ '-' :: (text.drop 8).take 4 ++ '-' :: (text.drop 12).take 4 ++
    '-' :: (text.drop 16).take 4 ++ '-' :: text.drop 20)

end RequestId
end NotebookSim
