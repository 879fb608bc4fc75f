/-!
Finite binary64 numbers, held exactly. `nearest` is the only rounding: to the nearest
representable number, a tie to the even significand. Sums, products and quotients round the
exact result once.
-/
namespace NotebookSim

/-- The integer nearest to `q`, the even one when two are equally near. -/
def nearestInt (q : Rat) : Int :=
  let below := q.floor
  let rest := q - below
  if rest < 1 / 2 then below
  else if 1 / 2 < rest then below + 1
  else if below % 2 = 0 then below
  else below + 1

/-- The number `significand · 2 ^ exponent`; the sign stands apart, so zero has two. -/
structure Binary64 where
  negative : Bool
  significand : Nat
  exponent : Int
  deriving DecidableEq, Repr

namespace Binary64

def leastExponent : Int := -1074
def greatestExponent : Int := 971

def zero : Binary64 := ⟨false, 0, leastExponent⟩

/-- The exact value; both zeros have the value zero. -/
def toRat (x : Binary64) : Rat :=
  let magnitude := (x.significand : Rat) * (2 : Rat) ^ x.exponent
  if x.negative then -magnitude else magnitude

def isZero (x : Binary64) : Bool := x.significand == 0

def neg (x : Binary64) : Binary64 := { x with negative := !x.negative }

/-- The exponent that gives a positive `q` a 53-bit significand, or the least exponent. -/
def exponentOf (q : Rat) : Int :=
  let guess : Int := (q.num.natAbs.log2 : Int) - (q.den.log2 : Int) - 52
  let exact := if q < (2 : Rat) ^ (guess + 52) then guess - 1 else guess
  max exact leastExponent

/-- A significand of 54 bits arises only by rounding up to `2 ^ 53`; it is halved. -/
def normalized (significand : Nat) (exponent : Int) : Binary64 :=
  if significand = 1 <<< 53 then ⟨false, 1 <<< 52, exponent + 1⟩ else ⟨false, significand, exponent⟩

/-- The number nearest to a rational, with no upper limit on the exponent. -/
def nearest (q : Rat) : Binary64 :=
  if q = 0 then zero
  else
    let magnitude := if q < 0 then -q else q
    let exponent := exponentOf magnitude
    let x := normalized (nearestInt (magnitude / (2 : Rat) ^ exponent)).toNat exponent
    { x with negative := decide (q < 0) }

/-- Whether the number is within the range of the format. -/
def isFinite (x : Binary64) : Bool := decide (x.exponent ≤ greatestExponent)

def ofNat (n : Nat) : Binary64 := nearest n

def ofInt (i : Int) : Binary64 := nearest i

def add (x y : Binary64) : Binary64 := nearest (x.toRat + y.toRat)

def mul (x y : Binary64) : Binary64 := nearest (x.toRat * y.toRat)

def div (x y : Binary64) : Binary64 := nearest (x.toRat / y.toRat)

end Binary64
end NotebookSim
