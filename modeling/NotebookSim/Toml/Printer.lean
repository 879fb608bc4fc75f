import NotebookSim.Text.Digits
/-!
TOML text of strings, numbers, lists of strings and tables of these. A string takes the plainest
of the four forms that can hold it.
-/
namespace NotebookSim.Toml

inductive StringForm where
  | basic
  | literal
  | multilineBasic
  | multilineLiteral
  deriving DecidableEq, Repr

/-- The length of the longest run of a character, where a run of `run` is under way. -/
def longestRun (c : Char) (run : Nat) : List Char → Nat
  | [] => run
  | d :: cs => if d = c then longestRun c (run + 1) cs else max run (longestRun c 0 cs)

/-- Control characters that only an escape can stand for. -/
def needsEscape (c : Char) : Bool :=
  c != '\t' && c != '\n' && (decide (c.toNat < 0x20) || c == '\x7f')

/-- The form of a string. On one line a literal string holds what would need escapes in a basic
one; three quotes hold newlines, and both kinds of quote. -/
def StringForm.of (cs : List Char) : StringForm :=
  let escapes := cs.any needsEscape
  let lines := cs.contains '\n'
  if !escapes && !lines && !cs.contains '\\' && !cs.contains '"' then .basic
  else if !escapes && !lines && !cs.contains '\'' then .literal
  else if !escapes && !cs.contains '\\' && longestRun '"' 0 cs ≤ 2 then .multilineBasic
  else if !escapes && longestRun '\'' 0 cs ≤ 2 then .multilineLiteral
  else if lines then .multilineBasic
  else .basic

/-- A character other than the quotation mark in a basic string. -/
def escapedChar (multiline : Bool) (c : Char) : List Char :=
  match c with
  | '\x08' => ['\\', 'b']
  | '\t' => ['\\', 't']
  | '\n' => if multiline then ['\n'] else ['\\', 'n']
  | '\x0c' => ['\\', 'f']
  | '\r' => ['\\', 'r']
  | '\\' => ['\\', '\\']
  | c =>
    if c.toNat < 0x20 ∨ c.toNat = 0x7F then '\\' :: 'u' :: Text.hex4 c.toNat else [c]

/-- The body of a basic string. One line holds no quotation mark without an escape, several hold
at most two in a row; `run` have just been written. -/
def escapedBody (multiline : Bool) (run : Nat) : List Char → List Char
  | [] => []
  | '"' :: cs =>
    if multiline && run < 2 then '"' :: escapedBody multiline (run + 1) cs
    else '\\' :: '"' :: escapedBody multiline 0 cs
  | c :: cs => escapedChar multiline c ++ escapedBody multiline 0 cs

/-- Three quotes around a body. A newline after the opening ones is not part of the string, and
is written when the string has lines. -/
def tripled (quote : Char) (lines : Bool) (body : List Char) : List Char :=
  [quote, quote, quote] ++ (if lines then ['\n'] else []) ++ body ++ [quote, quote, quote]

/-- A string in its form. -/
def quoted (cs : List Char) : List Char :=
  match StringForm.of cs with
  | .basic => '"' :: escapedBody false 0 cs ++ ['"']
  | .literal => '\'' :: cs ++ ['\'']
  | .multilineBasic => tripled '"' (cs.contains '\n') (escapedBody true 0 cs)
  | .multilineLiteral => tripled '\'' (cs.contains '\n') cs

/-- The values that tables are written with. -/
inductive Datum where
  | string (s : String)
  | natural (n : Nat)
  | strings (ss : List String)
  deriving DecidableEq, Repr

/-- Two and more strings stand on lines of their own, each with a comma. -/
def listed (ss : List String) : List Char :=
  match ss with
  | [] => ['[', ']']
  | [s] => '[' :: quoted s.toList ++ [']']
  | ss =>
    '[' :: '\n' ::
      (ss.flatMap fun s => [' ', ' ', ' ', ' '] ++ quoted s.toList ++ [',', '\n']) ++ [']']

def Datum.text : Datum → List Char
  | .string s => quoted s.toList
  | .natural n => Text.digits n
  | .strings ss => listed ss

/-- A line for each key. -/
def linesOf (entries : List (String × Datum)) : List Char :=
  entries.flatMap fun (key, d) => key.toList ++ [' ', '=', ' '] ++ d.text ++ ['\n']

/-- A header and the lines of its table. -/
def sectionText (name : String) (entries : List (String × Datum)) : List Char :=
  '[' :: name.toList ++ [']', '\n'] ++ linesOf entries

/-- Tables under their headers, with a blank line between them. -/
def document (tables : List (String × List (String × Datum))) : List Char :=
  ['\n'].intercalate (tables.map fun (name, entries) => sectionText name entries)

end NotebookSim.Toml
