import NotebookSim.Json.Printer
import NotebookSim.Text
/-!
The ways in which a JSON value fails to fit the shape that is asked of it, and their wording.
-/
namespace NotebookSim

/-- Where a value is read. A request's members are gathered before its action is known, which
shows in two places: an object without members then passes for the payload of a choice, and a
record with too many elements is worded differently. -/
inductive Place where
  | standalone
  | request
  deriving DecidableEq, Repr

inductive Misfit where
  /-- The value is of another kind than the one wanted. -/
  | kind (found : Json) (wanted : String)
  /-- An integer is outside the range of its type. -/
  | range (found : Int) (wanted : String)
  /-- A choice is written as an object with other than one member. -/
  | choiceMembers
  | variant (found : String) (known : List String)
  | missing (field : String)
  /-- A record written as an array ends before this field, which cannot be left out. -/
  | short (index : Nat) (record : String) (size : Nat)
  | long (place : Place) (length size : Nat)
  /-- A time lies past the last representable instant. There is no wording: the simulator stops
  instead of answering. -/
  | timeOverflow
  deriving Repr

namespace Misfit

/-- What a misfit says it found. -/
def describe : Json → String
  | .null => "null"
  | .boolean b => "boolean `" ++ (if b then "true" else "false") ++ "`"
  | .integer i => "integer `" ++ Text.integer i ++ "`"
  | .float x => "floating point `" ++ x.text ++ "`"
  | .string s => "string " ++ Text.quoted s
  | .array _ => "sequence"
  | .object _ => "map"

def elements (n : Nat) : String :=
  Text.natural n ++ if n = 1 then " element" else " elements"

/-- One or two names are listed in place, more after "one of". -/
def oneOf (names : List String) : String :=
  let marked := names.map fun name => "`" ++ name ++ "`"
  match marked with
  | [a] => a
  | [a, b] => a ++ " or " ++ b
  | _ => "one of " ++ ", ".intercalate marked

def message : Misfit → String
  | kind found wanted => "invalid type: " ++ describe found ++ ", expected " ++ wanted
  | range found wanted =>
    "invalid value: integer `" ++ Text.integer found ++ "`, expected " ++ wanted
  | choiceMembers => "invalid value: map, expected map with a single key"
  | variant found known => "unknown variant `" ++ found ++ "`, expected " ++ oneOf known
  | missing field => "missing field `" ++ field ++ "`"
  | short index record size =>
    "invalid length " ++ Text.natural index ++ ", expected struct " ++ record ++ " with " ++
      elements size
  | long .request length size =>
    "invalid length " ++ Text.natural length ++ ", expected " ++ elements size ++ " in sequence"
  | long .standalone length _ =>
    "invalid length " ++ Text.natural length ++ ", expected fewer elements in array"
  | timeOverflow => ""

end Misfit
end NotebookSim
