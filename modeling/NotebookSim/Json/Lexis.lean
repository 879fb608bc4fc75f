import NotebookSim.Json
import NotebookSim.Binary64.Decimal
import NotebookSim.Text.Digits
/-!
The words of JSON text: blanks, strings and numbers. Each reader takes what stands at the front
and returns the rest of the text with it.
-/
namespace NotebookSim.Json

def isBlank (c : Char) : Bool := c == ' ' || c == '\t' || c == '\n' || c == '\r'

def skipBlank (cs : List Char) : List Char := cs.dropWhile isBlank

/-- The character after a backslash, `u` apart. -/
def escape? : Char → Option Char
  | '"' => some '"'
  | '\\' => some '\\'
  | '/' => some '/'
  | 'b' => some '\x08'
  | 'f' => some '\x0c'
  | 'n' => some '\n'
  | 'r' => some '\r'
  | 't' => some '\t'
  | _ => none

/-- The UTF-16 code unit of four hexadecimal digits. -/
def codeUnit? (a b c d : Char) : Option Nat := Text.hexValue? [a, b, c, d]

def isLeadingSurrogate (u : Nat) : Bool := 0xD800 ≤ u && u < 0xDC00
def isTrailingSurrogate (u : Nat) : Bool := 0xDC00 ≤ u && u < 0xE000

/-- The body of a string up to its closing quotation mark. Surrogates must come in pairs, and
control characters must be escaped. -/
def stringBody? : List Char → Option (List Char × List Char)
  | [] => none
  | '"' :: rest => some ([], rest)
  | '\\' :: 'u' :: a :: b :: c :: d :: rest =>
    match codeUnit? a b c d with
    | none => none
    | some lead =>
      if isLeadingSurrogate lead then
        match rest with
        | '\\' :: 'u' :: e :: f :: g :: h :: rest =>
          match codeUnit? e f g h with
          | none => none
          | some trail =>
            if isTrailingSurrogate trail then
              (stringBody? rest).map fun (body, rest) =>
                (Char.ofNat (0x10000 + (lead - 0xD800) * 0x400 + (trail - 0xDC00)) :: body, rest)
            else none
        | _ => none
      else
        match Text.scalar? lead with
        | none => none
        | some x => (stringBody? rest).map fun (body, rest) => (x :: body, rest)
  | '\\' :: e :: rest =>
    match escape? e with
    | none => none
    | some x => (stringBody? rest).map fun (body, rest) => (x :: body, rest)
  | c :: rest =>
    if c.toNat < 0x20 then none
    else (stringBody? rest).map fun (body, rest) => (c :: body, rest)

/-- The digits at the front. -/
def takeDigits (cs : List Char) : List Char × List Char :=
  (cs.takeWhile Char.isDigit, cs.dropWhile Char.isDigit)

/-- An integer part: a single zero, or digits that do not start with one. -/
def integerPart? (cs : List Char) : Option (List Char × List Char) :=
  match takeDigits cs with
  | ([], _) => none
  | ('0' :: _ :: _, _) => none
  | (ds, rest) => some (ds, rest)

/-- A fraction: nothing, or a point and one or more digits. -/
def fractionPart? : List Char → Option (List Char × List Char)
  | '.' :: cs =>
    match takeDigits cs with
    | ([], _) => none
    | (ds, rest) => some (ds, rest)
  | cs => some ([], cs)

/-- The digits of an exponent with their sign, when an exponent follows. -/
def exponentPart? (cs : List Char) : Option (Option Int × List Char) :=
  match cs with
  | e :: cs' =>
    if e == 'e' || e == 'E' then
      let (negative, cs') := match cs' with
        | '+' :: r => (false, r)
        | '-' :: r => (true, r)
        | r => (false, r)
      match takeDigits cs' with
      | ([], _) => none
      | (ds, rest) =>
        let n : Int := Text.digitsValue ds
        some (some (if negative then -n else n), rest)
    else some (none, cs)
  | [] => some (none, [])

/-- The written parts of a number. -/
structure Numeral where
  negative : Bool
  whole : List Char
  fraction : List Char
  exponent : Option Int

def numeral? (cs : List Char) : Option (Numeral × List Char) := do
  let (negative, cs) := match cs with
    | '-' :: r => (true, r)
    | r => (false, r)
  let (whole, cs) ← integerPart? cs
  let (fraction, cs) ← fractionPart? cs
  let (exponent, cs) ← exponentPart? cs
  return (⟨negative, whole, fraction, exponent⟩, cs)

/-- The largest number of 64 bits. -/
def greatestWord : Nat := 1 <<< 64 - 1

/-- Appends digits while the number fits 64 bits, and counts the digits left over. -/
def appendDigits (n : Nat) : List Char → Nat × Nat
  | [] => (n, 0)
  | c :: cs =>
    let next := n * 10 + (c.toNat - 48)
    if next ≤ greatestWord then appendDigits next cs else (n, cs.length + 1)

/-- The significant digits kept, with the power of ten they are short of. -/
def Numeral.scaled (n : Numeral) : Nat × Int :=
  let (kept, dropped) := appendDigits 0 n.whole
  let (kept, rest) := appendDigits kept n.fraction
  (kept, dropped - (n.fraction.length - rest : Nat) + n.exponent.getD 0)

/-- A number with a fraction or an exponent is floating point, and so is an integer that does
not fit 64 bits and the negative zero. -/
def Numeral.value? (n : Numeral) : Option Json :=
  let whole := Text.digitsValue n.whole
  if n.fraction.isEmpty ∧ n.exponent.isNone ∧ n.negative = false ∧ whole ≤ greatestWord then
    some (.integer whole)
  else if n.fraction.isEmpty ∧ n.exponent.isNone ∧ n.negative = true ∧ 0 < whole ∧
      whole ≤ 1 <<< 63 then
    some (.integer (-whole))
  else
    let (kept, scale) := n.scaled
    (Binary64.ofDecimal? kept scale).map fun x => .float (if n.negative then x.neg else x)

end NotebookSim.Json
