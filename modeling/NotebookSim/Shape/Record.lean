import NotebookSim.Shape.Reader
/-!
Records: values of an object's named members, or of an array's elements in declaration order.
An object's members are visited in the order they stand in, and unknown ones are ignored; only
when all fit is the first absent field in declaration order looked for.
-/
namespace NotebookSim

/-- A field, with the values that stand for it when an object or an array leaves it out. -/
structure Field (α : Type) where
  name : String
  read : Reader α
  absent : Option α
  short : Option α

namespace Field

def required {α : Type} (name : String) (read : Reader α) : Field α := ⟨name, read, none, none⟩

/-- An optional field may be left out of an object but not of an array. -/
def optional {α : Type} (name : String) (read : Reader α) : Field (Option α) :=
  ⟨name, Reader.optional read, some none, none⟩

def withDefault {α : Type} (name : String) (read : Reader α) (value : α) : Field α :=
  ⟨name, read, some value, some value⟩

/-- An optional field that may be left out of an array as well. -/
def omittable {α : Type} (name : String) (read : Reader α) : Field (Option α) :=
  withDefault name (Reader.optional read) none

end Field

/-- The fields of a record in declaration order, and the function that assembles their values. -/
inductive Fields : Type → Type 1 where
  | pure {α : Type} (x : α) : Fields α
  | and {α β : Type} (earlier : Fields (α → β)) (field : Field α) : Fields β

namespace Fields

/-- A record of one text. -/
def ofText (name : String) : Fields String := .and (.pure id) (.required name Reader.text)

def count {α : Type} : Fields α → Nat
  | .pure _ => 0
  | .and earlier _ => earlier.count + 1

def names {α : Type} : Fields α → List String
  | .pure _ => []
  | .and earlier field => earlier.names ++ [field.name]

/-- The misfit of a member's value with the field of that name, if there is one. -/
def misfit? {α : Type} (place : Place) (name : String) (j : Json) :
    Fields α → Option Misfit
  | .pure _ => none
  | .and earlier field =>
    match earlier.misfit? place name j with
    | some m => some m
    | none =>
      if field.name = name then
        match field.read place j with
        | .error m => some m
        | .ok _ => none
      else none

/-- The record made of the members that `value?` gives. -/
def assemble {α : Type} (place : Place) (value? : String → Option Json) :
    Fields α → Except Misfit α
  | .pure x => .ok x
  | .and earlier field => do
    let f ← earlier.assemble place value?
    match value? field.name, field.absent with
    | some j, _ => (field.read place j).map f
    | none, some x => .ok (f x)
    | none, none => .error (.missing field.name)

def ofMembers {α : Type} (fields : Fields α) (place : Place)
    (members : List (String × Json)) : Except Misfit α :=
  match members.findSome? fun (name, j) => fields.misfit? place name j with
  | some m => .error m
  | none => fields.assemble place fun name => members.lookup name

/-- Takes an element for each field in turn, and gives the elements left over. -/
def takeElements {α : Type} (place : Place) (record : String) (size : Nat)
    (items : List Json) : Fields α → Except Misfit (α × List Json)
  | .pure x => .ok (x, items)
  | .and earlier field => do
    let (f, rest) ← earlier.takeElements place record size items
    match rest, field.short with
    | j :: rest, _ => (field.read place j).map fun x => (f x, rest)
    | [], some x => .ok (f x, [])
    | [], none => .error (.short earlier.count record size)

def ofElements {α : Type} (fields : Fields α) (place : Place) (record : String)
    (items : List Json) : Except Misfit α := do
  match ← fields.takeElements place record fields.count items with
  | (x, []) => return x
  | (_, _ :: _) => throw (.long place items.length fields.count)

/-- The reader of a record of this name. -/
def reader {α : Type} (record : String) (fields : Fields α) : Reader α
  | place, .object members => fields.ofMembers place members
  | place, .array items => fields.ofElements place record items
  | _, j => .error (.kind j ("struct " ++ record))

end Fields
end NotebookSim
