import NotebookSim.Binary64
import NotebookSim.Text.Digits
/-!
The shortest decimal text that reads back as a binary64 number. Grids of 1, 2, … 17 digits are
tried in turn; on each only the two neighbours of the exact value can lie in the interval of
reals that round to it.
-/
namespace NotebookSim.Binary64

/-- A positive decimal `digits · 10 ^ scale`. -/
structure Numeral where
  digits : Nat
  scale : Int
  deriving DecidableEq, Repr

def Numeral.toRat (n : Numeral) : Rat := (n.digits : Rat) * (10 : Rat) ^ n.scale

/-- Half the distance to the next number below; the gap narrows just above a power of two. -/
def halfGapBelow (x : Binary64) : Rat :=
  if x.significand = 1 <<< 52 ∧ leastExponent < x.exponent then (2 : Rat) ^ (x.exponent - 2)
  else (2 : Rat) ^ (x.exponent - 1)

def halfGapAbove (x : Binary64) : Rat := (2 : Rat) ^ (x.exponent - 1)

/-- Whether a positive rational rounds to the magnitude of `x`. -/
def readsBack (x : Binary64) (q : Rat) : Bool :=
  let v := (x.significand : Rat) * (2 : Rat) ^ x.exponent
  let low := v - halfGapBelow x
  let high := v + halfGapAbove x
  if x.significand % 2 = 0 then decide (low ≤ q) && decide (q ≤ high)
  else decide (low < q) && decide (q < high)

/-- The `p` with `10 ^ (p - 1) ≤ v < 10 ^ p`; the estimate from the binary length is off by at
most one. -/
def decimalLength (x : Binary64) : Int :=
  let v := (x.significand : Rat) * (2 : Rat) ^ x.exponent
  let estimate : Int := (x.exponent + x.significand.log2) * 30103 / 100000 + 1
  if (10 : Rat) ^ estimate ≤ v then estimate + 1
  else if v < (10 : Rat) ^ (estimate - 1) then estimate - 1
  else estimate

/-- The nearer of the two neighbours of `x` on the grid `10 ^ scale` that read back; of two
equally near ones the even one. -/
def onGrid? (x : Binary64) (scale : Int) : Option Numeral :=
  let v := (x.significand : Rat) * (2 : Rat) ^ x.exponent
  let below : Numeral := ⟨(v / (10 : Rat) ^ scale).floor.toNat, scale⟩
  let above : Numeral := ⟨below.digits + 1, scale⟩
  match readsBack x below.toRat, readsBack x above.toRat with
  | true, true =>
    let rise := above.toRat - v
    let fall := v - below.toRat
    if rise < fall ∨ (rise = fall ∧ above.digits % 2 = 0) then some above else some below
  | true, false => some below
  | false, true => some above
  | false, false => none

/-- A trailing zero moves into the scale. -/
def Numeral.stripped (n : Numeral) : Nat → Numeral
  | 0 => n
  | fuel + 1 =>
    if n.digits ≠ 0 ∧ n.digits % 10 = 0 then stripped ⟨n.digits / 10, n.scale + 1⟩ fuel else n

/-- The shortest numeral that reads back, the nearest of those. -/
def shortest (x : Binary64) : Numeral :=
  let p := decimalLength x
  match (List.range 17).findSome? fun (n : Nat) => onGrid? x (p - (n : Int) - 1) with
  | some n => n.stripped 20
  | none => ⟨0, 0⟩

/-- Exponents in this range are written positionally. -/
def positionalFrom : Int := -5
def positionalTo : Int := 15

def zeros (n : Nat) : String := String.ofList (List.replicate n '0')

/-- Positional text has a digit on both sides of the point; scientific text signs its exponent. -/
def Numeral.text (n : Numeral) : String :=
  let digits := Text.digits n.digits
  let exponent : Int := n.scale + digits.length - 1
  if positionalFrom ≤ exponent ∧ exponent ≤ positionalTo then
    if 0 ≤ n.scale then String.ofList digits ++ zeros n.scale.toNat ++ ".0"
    else if 0 ≤ exponent then
      String.ofList (digits.take (exponent + 1).toNat) ++ "." ++
        String.ofList (digits.drop (exponent + 1).toNat)
    else "0." ++ zeros (-exponent - 1).toNat ++ String.ofList digits
  else
    let mantissa := match digits with
      | [] => ""
      | [d] => String.ofList [d]
      | d :: rest => String.ofList (d :: '.' :: rest)
    let power := (if 0 ≤ exponent then "+" else "-") ++ Text.natural exponent.natAbs
    mantissa ++ "e" ++ power

/-- The text of a number; zero keeps its sign. -/
def text (x : Binary64) : String :=
  (if x.negative then "-" else "") ++ if x.isZero then "0.0" else (shortest x).text

end NotebookSim.Binary64
