import NotebookSim.Text.Digits
/-!
TOML strings in their four forms: basic and literal, on one line and on several. Each reader
takes the text after the opening quotes and returns the rest after the closing ones.
-/
namespace NotebookSim.Toml

/-- Characters that stand for themselves: no control character but the tab. -/
def isPlain (c : Char) : Bool := c == '\t' || (0x20 ≤ c.toNat && c.toNat != 0x7F)

def isSpace (c : Char) : Bool := c == ' ' || c == '\t'

/-- The character of exactly `n` hexadecimal digits at the front. -/
def hexEscape? (n : Nat) (cs : List Char) : Option (Char × List Char) :=
  if n ≤ cs.length then
    ((Text.hexValue? (cs.take n)).bind Text.scalar?).map fun c => (c, cs.drop n)
  else none

/-- The character of an escape, after its backslash. -/
def escape? : List Char → Option (Char × List Char)
  | 'b' :: rest => some ('\x08', rest)
  | 't' :: rest => some ('\t', rest)
  | 'n' :: rest => some ('\n', rest)
  | 'f' :: rest => some ('\x0c', rest)
  | 'r' :: rest => some ('\r', rest)
  | 'e' :: rest => some ('\x1b', rest)
  | '"' :: rest => some ('"', rest)
  | '\\' :: rest => some ('\\', rest)
  | 'x' :: rest => hexEscape? 2 rest
  | 'u' :: rest => hexEscape? 4 rest
  | 'U' :: rest => hexEscape? 8 rest
  | _ => none

theorem length_of_hexEscape {n : Nat} {cs rest : List Char} {c : Char}
    (h : hexEscape? n cs = some (c, rest)) : rest.length ≤ cs.length := by
  unfold hexEscape? at h
  split at h
  · obtain ⟨_, _, hr⟩ := Option.map_eq_some_iff.1 h
    simp only [Prod.mk.injEq] at hr
    rw [← hr.2, List.length_drop]
    omega
  · simp at h

theorem length_of_escape {cs rest : List Char} {c : Char}
    (h : escape? cs = some (c, rest)) : rest.length < cs.length := by
  unfold escape? at h
  split at h
  case h_9 | h_10 | h_11 =>
    have := length_of_hexEscape h
    simp only [List.length_cons]
    omega
  all_goals simp_all

/-- The body of a basic string on one line. -/
def basic? (cs : List Char) : Option (List Char × List Char) :=
  match cs with
  | [] => none
  | '"' :: rest => some ([], rest)
  | '\\' :: rest =>
    match h : escape? rest with
    | none => none
    | some (c, rest') =>
      have := length_of_escape h
      (basic? rest').map fun (body, rest) => (c :: body, rest)
  | c :: rest =>
    if isPlain c then (basic? rest).map fun (body, rest) => (c :: body, rest) else none
  termination_by cs.length
  decreasing_by all_goals simp only [List.length_cons]; omega

/-- The body of a literal string on one line. -/
def literal? : List Char → Option (List Char × List Char)
  | [] => none
  | '\'' :: rest => some ([], rest)
  | c :: rest =>
    if isPlain c then (literal? rest).map fun (body, rest) => (c :: body, rest) else none

/-- The text without the newline that may follow opening quotes. -/
def dropNewline : List Char → List Char
  | '\n' :: rest => rest
  | '\r' :: '\n' :: rest => rest
  | cs => cs

/-- The text without the blanks and newlines at its front. -/
def skipLines : List Char → List Char
  | ' ' :: rest => skipLines rest
  | '\t' :: rest => skipLines rest
  | '\n' :: rest => skipLines rest
  | '\r' :: '\n' :: rest => skipLines rest
  | cs => cs

theorem length_skipLines (cs : List Char) : (skipLines cs).length ≤ cs.length := by
  fun_induction skipLines cs <;> simp_all <;> omega

/-- Whether only blanks stand before the next newline. -/
def endsLine : List Char → Bool
  | ' ' :: rest => endsLine rest
  | '\t' :: rest => endsLine rest
  | '\n' :: _ => true
  | '\r' :: '\n' :: _ => true
  | _ => false

/-- Up to two quotes before the closing three belong to the text. -/
def closing (quote : Char) : List Char → List Char × List Char
  | a :: b :: rest =>
    if a = quote ∧ b = quote then ([a, b], rest)
    else if a = quote then ([a], b :: rest)
    else ([], a :: b :: rest)
  | [a] => if a = quote then ([a], []) else ([], [a])
  | [] => ([], [])

/-- The body of a basic string on several lines. A backslash at the end of a line joins it with
the next text; other line ends are part of the text, as they are. -/
def multilineBasic? (cs : List Char) : Option (List Char × List Char) :=
  match cs with
  | [] => none
  | '"' :: '"' :: '"' :: rest => some (closing '"' rest)
  | '\\' :: rest =>
    if endsLine rest then
      have := length_skipLines rest
      multilineBasic? (skipLines rest)
    else
      match h : escape? rest with
      | none => none
      | some (c, rest') =>
        have := length_of_escape h
        (multilineBasic? rest').map fun (body, rest) => (c :: body, rest)
  | '\n' :: rest => (multilineBasic? rest).map fun (body, rest) => ('\n' :: body, rest)
  | '\r' :: '\n' :: rest =>
    (multilineBasic? rest).map fun (body, rest) => ('\r' :: '\n' :: body, rest)
  | c :: rest =>
    if isPlain c then (multilineBasic? rest).map fun (body, rest) => (c :: body, rest) else none
  termination_by cs.length
  decreasing_by all_goals simp only [List.length_cons]; omega

/-- The body of a literal string on several lines. -/
def multilineLiteral? : List Char → Option (List Char × List Char)
  | [] => none
  | '\'' :: '\'' :: '\'' :: rest => some (closing '\'' rest)
  | '\n' :: rest => (multilineLiteral? rest).map fun (body, rest) => ('\n' :: body, rest)
  | '\r' :: '\n' :: rest =>
    (multilineLiteral? rest).map fun (body, rest) => ('\r' :: '\n' :: body, rest)
  | c :: rest =>
    if isPlain c then (multilineLiteral? rest).map fun (body, rest) => (c :: body, rest)
    else none

/-- A string of any form; nothing when no quote stands at the front. -/
def string? : List Char → Option (List Char × List Char)
  | '"' :: '"' :: '"' :: rest => multilineBasic? (dropNewline rest)
  | '"' :: rest => basic? rest
  | '\'' :: '\'' :: '\'' :: rest => multilineLiteral? (dropNewline rest)
  | '\'' :: rest => literal? rest
  | _ => none

end NotebookSim.Toml
