import NotebookSim.Shape.Misfit
import NotebookSim.Timestamp
/-!
Readers from JSON values to the types of the service. A reader reports the first misfit that it
meets.
-/
namespace NotebookSim

abbrev Reader (α : Type) := Place → Json → Except Misfit α

namespace Reader

def text : Reader String
  | _, .string s => .ok s
  | _, j => .error (.kind j "a string")

def boolean : Reader Bool
  | _, .boolean b => .ok b
  | _, j => .error (.kind j "a boolean")

/-- A natural number below `limit`, of the type `name`. -/
def natural (limit : Nat) (name : String) : Reader Nat
  | _, .integer i =>
    if 0 ≤ i ∧ i < limit then .ok i.toNat else .error (.range i name)
  | _, j => .error (.kind j name)

/-- Sizes and offsets have 64 bits. -/
def size : Reader Nat := natural (1 <<< 64) "usize"

/-- Volume sizes have 32 bits. -/
def volume : Reader Nat := natural (1 <<< 32) "u32"

/-- An integer is accepted as the floating point number nearest to it. -/
def number : Reader Binary64
  | _, .integer i => .ok (.ofInt i)
  | _, .float x => .ok x
  | _, j => .error (.kind j "f64")

def timestamp : Reader Timestamp := fun place j => do
  match Timestamp.ofSeconds? (← number place j) with
  | some t => .ok t
  | none => .error .timeOverflow

/-- The value `null` stands for no value. -/
def optional {α : Type} (read : Reader α) : Reader (Option α)
  | _, .null => .ok none
  | place, j => (read place j).map some

def list {α : Type} (read : Reader α) : Reader (List α)
  | place, .array items => items.mapM (read place)
  | _, j => .error (.kind j "a sequence")

/-- Texts by name, in the order of the object's members. -/
def dictionary : Reader (List (String × String))
  | place, .object members =>
    members.mapM fun (name, j) => (text place j).map fun s => (name, s)
  | _, j => .error (.kind j "a map")

def named {α : Type} (variants : List (String × α)) (name : String) : Except Misfit α :=
  match variants.lookup name with
  | some x => .ok x
  | none => .error (.variant name (variants.map (·.1)))

/-- The payload of a choice written as an object carries nothing. -/
def payload : Reader Unit
  | _, .null => .ok ()
  | .request, .object [] => .ok ()
  | _, j => .error (.kind j "unit")

/-- One of several names: a string, or an object whose only member has that name. -/
def choice {α : Type} (variants : List (String × α)) : Reader α
  | _, .string s => named variants s
  | place, .object [(name, j)] => do
    let x ← named variants name
    payload place j
    return x
  | _, .object _ => .error .choiceMembers
  | _, j => .error (.kind j "string or map")

end Reader
end NotebookSim
