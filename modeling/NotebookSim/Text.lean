import NotebookSim.Text.Digits
import NotebookSim.Text.Extending
import NotebookSim.Text.Unprintable
/-!
Texts character by character: what occurs in them, what is left when blanks are trimmed, and how
they are quoted.
-/
namespace NotebookSim.Text

/-! ## Occurrence -/

/-- Whether `needle` is a run of consecutive characters of the list; the empty run always is. -/
def occursIn (needle : List Char) : List Char → Bool
  | [] => needle.isEmpty
  | c :: cs => needle.isPrefixOf (c :: cs) || occursIn needle cs

def contains (s needle : String) : Bool := occursIn needle.toList s.toList

theorem occursIn_iff {needle cs : List Char} :
    occursIn needle cs = true ↔ needle <:+: cs := by
  induction cs with
  | nil => simp [occursIn, List.infix_nil]
  | cons c cs ih => simp [occursIn, List.infix_cons_iff, ih]

/-! ## Blanks -/

/-- White space in the sense of the Unicode property White_Space. -/
def isBlank (c : Char) : Bool :=
  let code := c.toNat
  (0x9 ≤ code && code ≤ 0xD) || code == 0x20 || code == 0x85 || code == 0xA0 || code == 0x1680 ||
    (0x2000 ≤ code && code ≤ 0x200A) || code == 0x2028 || code == 0x2029 || code == 0x202F ||
    code == 0x205F || code == 0x3000

/-- The text between the first and the last character that is not blank. -/
def trim (s : String) : String :=
  String.ofList (((s.toList.dropWhile isBlank).reverse.dropWhile isBlank).reverse)

/-! ## Quotes -/

/-- Whatever could not be told apart on a terminal is written as an escape: controls, separators,
unassigned characters and combining marks. -/
def quotedChar (c : Char) : String :=
  match c with
  | '\x00' => "\\0"
  | '\t' => "\\t"
  | '\r' => "\\r"
  | '\n' => "\\n"
  | '\\' => "\\\\"
  | '"' => "\\\""
  | c =>
    if isExtending c || !isPrintable c then "\\u\x7b" ++ hex c.toNat ++ "\x7d"
    else String.ofList [c]

/-- Text in double quotes for messages. -/
def quoted (s : String) : String :=
  "\"" ++ String.join (s.toList.map quotedChar) ++ "\""

end NotebookSim.Text
