import NotebookSim.Binary64
/-!
JSON values. Integers and floating point numbers are told apart by how they are written, and an
object keeps its members in a definite order.
-/
namespace NotebookSim

inductive Json where
  | null
  | boolean (b : Bool)
  | integer (i : Int)
  | float (x : Binary64)
  | string (s : String)
  | array (items : List Json)
  | object (members : List (String × Json))
  deriving Repr

namespace Json

/-- Adds a member at its place among sorted names; a repeated name takes the later value. -/
def insertMember (name : String) (value : Json) :
    List (String × Json) → List (String × Json)
  | [] => [(name, value)]
  | (k, v) :: members =>
    if name < k then (name, value) :: (k, v) :: members
    else if name = k then (name, value) :: members
    else (k, v) :: insertMember name value members

/-- The object with these members, sorted by name. -/
def ofMembers (members : List (String × Json)) : Json :=
  .object (members.foldl (fun sorted m => insertMember m.1 m.2 sorted) [])

/-- The value of a member; anything but an object has none. -/
def member? (name : String) : Json → Option Json
  | .object members => members.lookup name
  | _ => none

def string? : Json → Option String
  | .string s => some s
  | _ => none

/-- The text of a member whose value is a string. -/
def stringMember? (name : String) (j : Json) : Option String :=
  (j.member? name).bind string?

/-- A member that is left out when it has no value. -/
def optionalMember (name : String) (value : Option Json) : List (String × Json) :=
  match value with
  | some j => [(name, j)]
  | none => []

def texts (ss : List String) : Json := .array (ss.map string)

/-- A list member that is left out when the list is empty. -/
def nonemptyTexts (name : String) (ss : List String) : List (String × Json) :=
  if ss.isEmpty then [] else [(name, texts ss)]

end Json
end NotebookSim
