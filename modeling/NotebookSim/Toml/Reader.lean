import NotebookSim.Toml.Scalar
import NotebookSim.Toml.Table
import NotebookSim.Toml.Text
/-!
TOML documents read as tables. A document is a sequence of statements: headers, and keys with
their values.
-/
namespace NotebookSim.Toml

/-- The text without the spaces and tabs at its front. -/
def skipSpace (cs : List Char) : List Char := cs.dropWhile isSpace

/-- The text without the blanks, newlines and comments at its front. -/
def skipFiller (cs : List Char) : List Char :=
  match cs with
  | ' ' :: rest => skipFiller rest
  | '\t' :: rest => skipFiller rest
  | '\n' :: rest => skipFiller rest
  | '\r' :: '\n' :: rest => skipFiller rest
  | '#' :: rest => skipFiller (rest.dropWhile isPlain)
  | cs => cs
  termination_by cs.length
  decreasing_by
    all_goals simp only [List.length_cons]
    all_goals have := (List.dropWhile_sublist (l := rest) isPlain).length_le
    all_goals omega

/-- The text after the end of a line; a comment may stand before it. -/
def afterLine? (cs : List Char) : Option (List Char) :=
  let cs := match skipSpace cs with
    | '#' :: rest => rest.dropWhile isPlain
    | cs => cs
  match cs with
  | [] => some []
  | '\n' :: rest => some rest
  | '\r' :: '\n' :: rest => some rest
  | _ => none

def isBareKeyChar (c : Char) : Bool := c.isAlphanum || c == '_' || c == '-'

/-- One part of a key: bare, or a string on one line. -/
def keyPart? : List Char → Option (String × List Char)
  | '"' :: rest => (basic? rest).map fun (body, rest) => (String.ofList body, rest)
  | '\'' :: rest => (literal? rest).map fun (body, rest) => (String.ofList body, rest)
  | cs =>
    match cs.takeWhile isBareKeyChar with
    | [] => none
    | word => some (String.ofList word, cs.dropWhile isBareKeyChar)

/-- How many parts a key may have. -/
def keyLimit : Nat := 80

/-- A key with its dots, of at most so many parts, and the text after it and its blanks. -/
def key? : Nat → List Char → Option (List String × List Char)
  | 0, _ => none
  | limit + 1, cs =>
    match keyPart? cs with
    | none => none
    | some (part, rest) =>
      match skipSpace rest with
      | '.' :: more => (key? limit (skipSpace more)).map fun (path, rest) => (part :: path, rest)
      | rest => some ([part], rest)

/-- A key and the text after its equals sign. `skip` passes over what may stand on both sides of
the sign: blanks, and between braces also newlines and comments. -/
def keyAndEquals? (skip : List Char → List Char) (cs : List Char) :
    Option (List String × List Char) :=
  match key? keyLimit cs with
  | none => none
  | some (path, rest) =>
    match skip rest with
    | '=' :: rest => some (path, skip rest)
    | _ => none

/-- How many brackets and braces may contain one another. -/
def depthLimit : Nat := 80

mutual

/-- A value at the front of the text, with `depth` more containers allowed. -/
def readValue (fuel depth : Nat) (cs : List Char) : Option (Value × List Char) :=
  match fuel with
  | 0 => none
  | fuel + 1 =>
    match cs with
    | '[' :: cs =>
      match depth with
      | 0 => none
      | depth + 1 =>
        (readItems fuel depth (skipFiller cs)).map fun (items, rest) => (.array false items, rest)
    | '\x7b' :: cs =>
      match depth with
      | 0 => none
      | depth + 1 =>
        match readPairs fuel depth (skipFiller cs) with
        | none => none
        | some (pairs, rest) =>
          (Table.ofPairs? pairs).map fun entries => (.table .inline entries, rest)
    | '"' :: _ | '\'' :: _ =>
      (string? cs).map fun (body, rest) => (.string (String.ofList body), rest)
    | cs =>
      let (word, rest) := scalarText cs
      (scalarValue? word).map fun v => (v, rest)

/-- The elements of an array up to its closing bracket; a comma may follow the last one. -/
def readItems (fuel depth : Nat) (cs : List Char) : Option (List Value × List Char) :=
  match fuel with
  | 0 => none
  | fuel + 1 =>
    match cs with
    | ']' :: rest => some ([], rest)
    | cs =>
      match readValue fuel depth cs with
      | none => none
      | some (v, rest) =>
        match skipFiller rest with
        | ',' :: rest =>
          (readItems fuel depth (skipFiller rest)).map fun (items, rest) => (v :: items, rest)
        | ']' :: rest => some ([v], rest)
        | _ => none

/-- The keys and values of an inline table up to its closing brace; a comma may follow the
last one. -/
def readPairs (fuel depth : Nat) (cs : List Char) :
    Option (List (List String × Value) × List Char) :=
  match fuel with
  | 0 => none
  | fuel + 1 =>
    match cs with
    | '\x7d' :: rest => some ([], rest)
    | cs =>
      match keyAndEquals? skipFiller cs with
      | none => none
      | some (path, rest) =>
        match readValue fuel depth rest with
        | none => none
        | some (v, rest) =>
          match skipFiller rest with
          | ',' :: rest =>
            (readPairs fuel depth (skipFiller rest)).map fun (pairs, rest) =>
              ((path, v) :: pairs, rest)
          | '\x7d' :: rest => some ([(path, v)], rest)
          | _ => none

end

inductive Statement where
  /-- The header of a table. -/
  | table (path : List String)
  /-- The header of a further table in an array. -/
  | item (path : List String)
  | entry (path : List String) (value : Value)

/-- The path of a header and the text after it; the brackets at the end must be as many as at
the front. -/
def header? (closing cs : List Char) : Option (List String × List Char) :=
  match key? keyLimit (skipSpace cs) with
  | some (path, rest) =>
    if closing.isPrefixOf rest then some (path, rest.drop closing.length) else none
  | none => none

/-- A statement at the front of the text. -/
def statement? : List Char → Option (Statement × List Char)
  | '[' :: '[' :: cs => (header? [']', ']'] cs).map fun (path, rest) => (.item path, rest)
  | '[' :: cs => (header? [']'] cs).map fun (path, rest) => (.table path, rest)
  | cs =>
    match keyAndEquals? skipSpace cs with
    | none => none
    | some (path, rest) =>
      (readValue (2 * rest.length + 2) depthLimit rest).map fun (v, rest) =>
        (.entry path v, rest)

/-- The statements of a text, each on lines of its own. Each takes a character, so the length
of the text is fuel enough. -/
def statements? : Nat → List Char → Option (List Statement)
  | 0, _ => none
  | fuel + 1, cs =>
    match skipFiller cs with
    | [] => some []
    | cs =>
      match statement? cs with
      | none => none
      | some (s, rest) =>
        match afterLine? rest with
        | none => none
        | some rest => (statements? fuel rest).map (s :: ·)

/-- A document under construction: the root table, and the path of the last header. -/
structure Draft where
  root : Entries
  current : List String

def Draft.add (draft : Draft) : Statement → Option Draft
  | .table path => (Table.openTable path draft.root).map fun root => ⟨root, path⟩
  | .item path => (Table.openItem path draft.root).map fun root => ⟨root, path⟩
  | .entry path value =>
    (Table.within (Table.set true path value) draft.current draft.root).map fun root =>
      ⟨root, draft.current⟩

/-- The root table of a sequence of statements. -/
def ofStatements? (ss : List Statement) : Option Entries :=
  (ss.foldlM Draft.add ⟨[], []⟩).map Draft.root

/-- The text without the mark that may stand before it. -/
def dropByteOrderMark : List Char → List Char
  | '\ufeff' :: cs => cs
  | cs => cs

/-- The root table of a document. -/
def parse (s : String) : Option Entries :=
  let cs := dropByteOrderMark s.toList
  (statements? (cs.length + 1) cs).bind ofStatements?

end NotebookSim.Toml
