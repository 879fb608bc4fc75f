import NotebookSim.Binary64
/-!
Decimal numerals read as binary64 numbers. A numeral is `digits · 10 ^ scale`; the digits are
rounded first and the scaling is rounded again, so long numerals can miss the nearest number
by one unit.
-/
namespace NotebookSim.Binary64

/-- The largest power of ten that is one scaling step. -/
def greatestStep : Nat := 308

def powerOfTen (k : Nat) : Binary64 := ofNat (Nat.pow 10 k)

/-- Division by `10 ^ k` in steps of `10 ^ 308`; zero stays zero, which ends the steps. -/
def scaleDown (x : Binary64) (k : Nat) : Binary64 :=
  if x.isZero then x
  else if k ≤ greatestStep then x.div (powerOfTen k)
  else scaleDown (x.div (powerOfTen greatestStep)) (k - greatestStep)
  termination_by k
  decreasing_by simp only [greatestStep] at *; omega

/-- Multiplication by `10 ^ k`; there is no answer outside the finite range. -/
def scaleUp? (x : Binary64) (k : Nat) : Option Binary64 :=
  if x.isZero then some x
  else if k ≤ greatestStep then
    let y := x.mul (powerOfTen k)
    if y.isFinite then some y else none
  else none

/-- The number written `digits · 10 ^ scale`, when it is finite. -/
def ofDecimal? (digits : Nat) (scale : Int) : Option Binary64 :=
  let x := ofNat digits
  if 0 ≤ scale then scaleUp? x scale.toNat else some (scaleDown x (-scale).toNat)

end NotebookSim.Binary64
