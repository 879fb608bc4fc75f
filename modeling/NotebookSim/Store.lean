import NotebookSim.Resource
import NotebookSim.Timestamp
/-!
Records of one kind by name, in the order they were inserted. A name removed and inserted again
goes to the end; an update in place keeps its position.
-/
namespace NotebookSim

/-- What the store and the listings need to know of a record. -/
class Record (R : Type) where
  kind : ResourceKind
  name : R → String
  creationTime : R → Timestamp
  lastModifiedTime : R → Timestamp

inductive StoreError where
  | alreadyExists (kind : ResourceKind) (name : String)
  | notFound (kind : ResourceKind) (name : String)
  deriving DecidableEq, Repr

def StoreError.message : StoreError → String
  | alreadyExists kind name => kind.display ++ " '" ++ name ++ "' already exists"
  | notFound kind name => kind.display ++ " '" ++ name ++ "' not found"

structure Store (R : Type) where
  records : List R
  deriving DecidableEq, Repr

namespace Store

variable {R : Type} [Record R]

def empty : Store R := ⟨[]⟩

def hasName (name : String) (r : R) : Bool := Record.name r == name

def find? (store : Store R) (name : String) : Option R := store.records.find? (hasName name)

def contains (store : Store R) (name : String) : Bool := store.records.any (hasName name)

def size (store : Store R) : Nat := store.records.length

def isEmpty (store : Store R) : Bool := store.records.isEmpty

/-- The record of a name. -/
def get (store : Store R) (name : String) : Except StoreError R :=
  match store.find? name with
  | some r => .ok r
  | none => .error (.notFound (Record.kind R) name)

def push (store : Store R) (r : R) : Store R := ⟨store.records ++ [r]⟩

/-- Appends a record under a name that is not taken. -/
def insert (store : Store R) (r : R) : Except StoreError (Store R) :=
  if store.contains (Record.name r) then
    .error (.alreadyExists (Record.kind R) (Record.name r))
  else .ok (store.push r)

/-- Changes the first record that satisfies `p`. -/
def updateFirst (p : R → Bool) (f : R → R) : List R → List R
  | [] => []
  | r :: rs => if p r then f r :: rs else r :: updateFirst p f rs

def modify (store : Store R) (name : String) (f : R → R) : Store R :=
  ⟨updateFirst (hasName name) f store.records⟩

/-- Changes the record of a name in its place. -/
def update (store : Store R) (name : String) (f : R → R) : Except StoreError (Store R) := do
  let _ ← store.get name
  return store.modify name f

def erase (store : Store R) (name : String) : Store R := ⟨store.records.eraseP (hasName name)⟩

/-- Takes out the record of a name; the others keep their order. -/
def remove (store : Store R) (name : String) : Except StoreError (R × Store R) := do
  let r ← store.get name
  return (r, store.erase name)

end Store
end NotebookSim
