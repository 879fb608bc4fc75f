import NotebookSim.Json
import NotebookSim.Binary64.Shortest
import NotebookSim.Text.Digits
/-!
JSON text, compact or indented by two spaces. Only the quotation mark, the backslash and the
control characters below U+0020 are escaped.
-/
namespace NotebookSim.Json

def escapedChar (c : Char) : String :=
  match c with
  | '"' => "\\\""
  | '\\' => "\\\\"
  | '\x08' => "\\b"
  | '\t' => "\\t"
  | '\n' => "\\n"
  | '\x0c' => "\\f"
  | '\r' => "\\r"
  | c =>
    if c.toNat < 0x20 then (if c.toNat < 0x10 then "\\u000" else "\\u00") ++ Text.hex c.toNat
    else String.ofList [c]

def quote (s : String) : String := "\"" ++ String.join (s.toList.map escapedChar) ++ "\""

mutual

/-- Text without any white space. -/
def compact : Json → String
  | .null => "null"
  | .boolean b => if b then "true" else "false"
  | .integer i => Text.integer i
  | .float x => x.text
  | .string s => quote s
  | .array items => "[" ++ ",".intercalate (compactItems items) ++ "]"
  | .object members => "\x7b" ++ ",".intercalate (compactMembers members) ++ "\x7d"

def compactItems : List Json → List String
  | [] => []
  | j :: items => j.compact :: compactItems items

def compactMembers : List (String × Json) → List String
  | [] => []
  | (name, j) :: members => (quote name ++ ":" ++ j.compact) :: compactMembers members

end

def indentation (depth : Nat) : String := String.ofList (List.replicate (2 * depth) ' ')

/-- One element per line between brackets; an empty container stays on one line. -/
def indented (opening closing : String) (depth : Nat) (parts : List String) : String :=
  if parts.isEmpty then opening ++ closing
  else
    let separator := "\n" ++ indentation (depth + 1)
    opening ++ separator ++ ("," ++ separator).intercalate parts ++ "\n" ++ indentation depth ++
      closing

mutual

/-- Indented text of a value that stands `depth` containers deep. -/
def prettyAt (depth : Nat) : Json → String
  | .array items => indented "[" "]" depth (prettyItems (depth + 1) items)
  | .object members => indented "\x7b" "\x7d" depth (prettyMembers (depth + 1) members)
  | .null => "null"
  | .boolean b => if b then "true" else "false"
  | .integer i => Text.integer i
  | .float x => x.text
  | .string s => quote s

def prettyItems (depth : Nat) : List Json → List String
  | [] => []
  | j :: items => j.prettyAt depth :: prettyItems depth items

def prettyMembers (depth : Nat) : List (String × Json) → List String
  | [] => []
  | (name, j) :: members =>
    (quote name ++ ": " ++ j.prettyAt depth) :: prettyMembers depth members

end

def pretty (j : Json) : String := j.prettyAt 0

end NotebookSim.Json
