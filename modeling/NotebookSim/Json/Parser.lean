import NotebookSim.Json.Lexis
/-!
Strict JSON text read as a value. Containers may stand `depthLimit` deep; a repeated member takes
its last value; nothing but blanks may surround the value.
-/
namespace NotebookSim.Json

/-- How many containers may contain one another. -/
def depthLimit : Nat := 127

/-- The text after a word that must stand at the front. -/
def expect (word : List Char) (cs : List Char) : Option (List Char) :=
  if word.isPrefixOf cs then some (cs.drop word.length) else none

mutual

/-- A value at the front of the text, with `depth` more containers allowed. Each step of the
recursion but one takes a character, so twice the length of the text is fuel enough. -/
def readValue (fuel depth : Nat) (cs : List Char) : Option (Json × List Char) :=
  match fuel with
  | 0 => none
  | fuel + 1 =>
    match skipBlank cs with
    | '"' :: cs => (stringBody? cs).map fun (body, rest) => (.string (String.ofList body), rest)
    | 'n' :: cs => (expect ['u', 'l', 'l'] cs).map fun rest => (.null, rest)
    | 't' :: cs => (expect ['r', 'u', 'e'] cs).map fun rest => (.boolean true, rest)
    | 'f' :: cs => (expect ['a', 'l', 's', 'e'] cs).map fun rest => (.boolean false, rest)
    | '[' :: cs =>
      match depth with
      | 0 => none
      | depth + 1 =>
        match skipBlank cs with
        | ']' :: rest => some (.array [], rest)
        | cs => (readItems fuel depth cs).map fun (items, rest) => (.array items, rest)
    | '\x7b' :: cs =>
      match depth with
      | 0 => none
      | depth + 1 =>
        match skipBlank cs with
        | '\x7d' :: rest => some (.object [], rest)
        | cs => (readMembers fuel depth cs).map fun (members, rest) => (ofMembers members, rest)
    | cs =>
      match numeral? cs with
      | none => none
      | some (n, rest) => n.value?.map fun j => (j, rest)

/-- One or more elements and the closing bracket. -/
def readItems (fuel depth : Nat) (cs : List Char) : Option (List Json × List Char) :=
  match fuel with
  | 0 => none
  | fuel + 1 =>
    match readValue fuel depth cs with
    | none => none
    | some (j, cs) =>
      match skipBlank cs with
      | ',' :: cs => (readItems fuel depth cs).map fun (items, rest) => (j :: items, rest)
      | ']' :: rest => some ([j], rest)
      | _ => none

/-- One or more members and the closing brace. -/
def readMembers (fuel depth : Nat) (cs : List Char) :
    Option (List (String × Json) × List Char) :=
  match fuel with
  | 0 => none
  | fuel + 1 =>
    match skipBlank cs with
    | '"' :: cs =>
      match stringBody? cs with
      | none => none
      | some (name, cs) =>
        match skipBlank cs with
        | ':' :: cs =>
          match readValue fuel depth cs with
          | none => none
          | some (j, cs) =>
            match skipBlank cs with
            | ',' :: cs =>
              (readMembers fuel depth cs).map fun (members, rest) =>
                ((String.ofList name, j) :: members, rest)
            | '\x7d' :: rest => some ([(String.ofList name, j)], rest)
            | _ => none
        | _ => none
    | _ => none

end

/-- The value of a text with at most `depth` nested containers. -/
def parseWithin (depth : Nat) (s : String) : Option Json :=
  let cs := s.toList
  match readValue (2 * cs.length + 2) depth cs with
  | some (j, rest) => if (skipBlank rest).isEmpty then some j else none
  | none => none

def parse (s : String) : Option Json := parseWithin depthLimit s

end NotebookSim.Json
