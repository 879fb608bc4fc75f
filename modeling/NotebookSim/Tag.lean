import NotebookSim.Shape.Record
/-!
Tags, and the limits on their length in characters.
-/
namespace NotebookSim

structure Tag where
  key : String
  value : String
  deriving DecidableEq, Repr

namespace Tag

def greatestKeyLength : Nat := 128
def greatestValueLength : Nat := 256

def display (tag : Tag) : String := tag.key ++ "=" ++ tag.value

def hasValidKey (tag : Tag) : Bool :=
  !tag.key.isEmpty && decide (tag.key.length ≤ greatestKeyLength)

def hasValidValue (tag : Tag) : Bool := decide (tag.value.length ≤ greatestValueLength)

def fields : Fields Tag :=
  Fields.pure Tag.mk
    |>.and (.required "Key" Reader.text)
    |>.and (.required "Value" Reader.text)

def reader : Reader Tag := fields.reader "Tag"

def toJson (tag : Tag) : Json := .object [("Key", .string tag.key), ("Value", .string tag.value)]

end Tag
end NotebookSim
