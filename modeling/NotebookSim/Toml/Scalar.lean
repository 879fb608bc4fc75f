import NotebookSim.Binary64
import NotebookSim.Toml
import NotebookSim.Toml.Moment
/-!
TOML values that stand without quotes or brackets: booleans, integers, floating point numbers
and moments in time.
-/
namespace NotebookSim.Toml

/-- Digits with single underscores between them, given without the underscores. -/
def ungrouped? (isDigit : Char → Bool) : List Char → Option (List Char)
  | [] => none
  | [c] => if isDigit c then some [c] else none
  | c :: '_' :: rest => if isDigit c then (ungrouped? isDigit rest).map (c :: ·) else none
  | c :: rest => if isDigit c then (ungrouped? isDigit rest).map (c :: ·) else none

/-- A sign, and the text after it. -/
def signed : List Char → Bool × List Char
  | '-' :: rest => (true, rest)
  | '+' :: rest => (false, rest)
  | cs => (false, cs)

/-- The digits of a decimal number, which start with a zero only when it is the only one. -/
def decimalDigits? (cs : List Char) : Option (List Char) :=
  match ungrouped? Char.isDigit cs with
  | some ('0' :: _ :: _) => none
  | ds => ds

/-- The value of digits in another base, which takes no sign. -/
def radixValue? (base : Nat) (cs : List Char) : Option Nat :=
  (ungrouped? (fun c => (Text.hexDigit? c).any (· < base)) cs).map fun ds =>
    ds.foldl (fun n c => n * base + (Text.hexDigit? c).getD 0) 0

/-- Integers are held in 128 bits, signed or not. -/
def fitsInteger (i : Int) : Bool :=
  decide (-(1 <<< 127 : Nat) ≤ i) && decide (i < (1 <<< 128 : Nat))

def integer? (cs : List Char) : Option Int :=
  let whole : Option Int := match cs with
    | '0' :: 'x' :: rest => (radixValue? 16 rest).map Int.ofNat
    | '0' :: 'o' :: rest => (radixValue? 8 rest).map Int.ofNat
    | '0' :: 'b' :: rest => (radixValue? 2 rest).map Int.ofNat
    | cs =>
      let (negative, cs) := signed cs
      (decimalDigits? cs).map fun ds =>
        let n : Int := Text.digitsValue ds
        if negative then -n else n
  whole.filter fitsInteger

/-- Whether `digits · 10 ^ scale` is within the range of binary64. Only magnitudes near the
limit are computed. -/
def isWithinRange (digits : Nat) (scale : Int) : Bool :=
  let length : Int := (Nat.toDigits 10 digits).length + scale
  if digits = 0 ∨ length < 300 then true
  else if 320 < length then false
  else (Binary64.nearest (digits * (10 : Rat) ^ scale)).isFinite

/-- The parts before and after the first character that satisfies a condition. -/
def splitAtFirst (p : Char → Bool) (cs : List Char) : List Char × Option (List Char) :=
  match cs.dropWhile fun c => !p c with
  | [] => (cs, none)
  | _ :: rest => (cs.takeWhile fun c => !p c, some rest)

def isSpecialFloat (cs : List Char) : Bool :=
  let (_, cs) := signed cs
  cs == ['i', 'n', 'f'] || cs == ['n', 'a', 'n']

/-- Whether the text is a floating point number: a fraction, an exponent or both. -/
def isFloat (cs : List Char) : Bool :=
  if isSpecialFloat cs then true
  else
    let (_, cs) := signed cs
    let (mantissa, exponent) := splitAtFirst (fun c => c == 'e' || c == 'E') cs
    let (whole, fraction) := splitAtFirst (· == '.') mantissa
    let scale? : Option Int := match exponent with
      | none => some 0
      | some cs =>
        let (negative, cs) := signed cs
        (ungrouped? Char.isDigit cs).map fun ds =>
          let n : Int := Text.digitsValue ds
          if negative then -n else n
    let fraction? : Option (List Char) := match fraction with
      | none => some []
      | some cs => ungrouped? Char.isDigit cs
    match decimalDigits? whole, fraction?, scale? with
    | some ds, some fs, some scale =>
      (exponent.isSome || fraction.isSome) &&
        isWithinRange (Text.digitsValue (ds ++ fs)) (scale - fs.length)
    | _, _, _ => false

/-- Characters that a value without quotes can hold. -/
def isScalarChar (c : Char) : Bool :=
  c.isAlphanum || c == '+' || c == '-' || c == '_' || c == '.' || c == ':'

/-- The text of a scalar at the front. A date takes in a time that follows after one blank. -/
def scalarText (cs : List Char) : List Char × List Char :=
  let word := cs.takeWhile isScalarChar
  let rest := cs.dropWhile isScalarChar
  match rest with
  | ' ' :: c :: more =>
    if Moment.isDate word && c.isDigit then
      (word ++ ' ' :: (c :: more).takeWhile isScalarChar, (c :: more).dropWhile isScalarChar)
    else (word, rest)
  | _ => (word, rest)

/-- The value that a scalar's text stands for. -/
def scalarValue? (word : List Char) : Option Value :=
  if word = ['t', 'r', 'u', 'e'] then some (.boolean true)
  else if word = ['f', 'a', 'l', 's', 'e'] then some (.boolean false)
  else
    match integer? word with
    | some i => some (.integer i)
    | none =>
      if isFloat word then some (.float (String.ofList word))
      else if Moment.isValid word then some (.moment (String.ofList word))
      else none

end NotebookSim.Toml
