import NotebookSim.Json
/-!
Instants in whole nanoseconds from the epoch, and their wire form: a binary64 number of seconds.
Writing clamps instants before the epoch to zero; reading rounds the exact number of seconds to
whole nanoseconds, a tie to the even one.
-/
namespace NotebookSim

/-- Nanoseconds from the epoch; negative before it. -/
structure Timestamp where
  nanoseconds : Int
  deriving DecidableEq, Repr

namespace Timestamp

def epoch : Timestamp := ⟨0⟩

def nanosPerSecond : Nat := 1000000000

def ofMilliseconds (ms : Int) : Timestamp := ⟨ms * 1000000⟩

instance : LT Timestamp := ⟨fun a b => a.nanoseconds < b.nanoseconds⟩
instance : LE Timestamp := ⟨fun a b => a.nanoseconds ≤ b.nanoseconds⟩
instance (a b : Timestamp) : Decidable (a < b) := Int.decLt a.nanoseconds b.nanoseconds
instance (a b : Timestamp) : Decidable (a ≤ b) := Int.decLe a.nanoseconds b.nanoseconds

/-- Whole seconds from the epoch. -/
def seconds (t : Timestamp) : Int := t.nanoseconds / nanosPerSecond

/-- Nanoseconds within the second. -/
def subsecond (t : Timestamp) : Int := t.nanoseconds % nanosPerSecond

/-- Seconds since the epoch: the whole seconds plus the quotient of the nanoseconds, each
rounded, and the sum rounded. -/
def toSeconds (t : Timestamp) : Binary64 :=
  if t.nanoseconds < 0 then Binary64.zero
  else (Binary64.ofInt t.seconds).add
    ((Binary64.ofInt t.subsecond).div (Binary64.ofNat nanosPerSecond))

def toJson (t : Timestamp) : Json := .float t.toSeconds

/-- Instants this many seconds after the epoch or later have no representation. -/
def secondsLimit : Nat := 1 <<< 63

/-- The instant nearest to an exact number of seconds. -/
def ofExactSeconds (q : Rat) : Timestamp :=
  if 0 < q then ⟨nearestInt (q * (nanosPerSecond : Rat))⟩ else epoch

/-- The instant a number of seconds names, when it can be represented. -/
def ofSeconds? (x : Binary64) : Option Timestamp :=
  if x.toRat < (secondsLimit : Rat) then some (ofExactSeconds x.toRat) else none

end Timestamp
end NotebookSim
