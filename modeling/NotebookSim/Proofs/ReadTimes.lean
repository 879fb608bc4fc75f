import NotebookSim.Proofs.ReportedTimes
/-!
Times that are given as numbers of seconds. A number past the epoch is taken for the nanosecond
nearest to it; where its part of a second is rounded up to a whole one, that is carried into the
seconds. Every other number is taken for the epoch. The greater of two numbers is never taken for
the earlier instant.
-/
namespace NotebookSim.Timestamp

variable {p q : Rat}

/-! ## Whole seconds and the rest -/

/-- The nanoseconds of a number past its whole seconds. Rounding may bring them to a second. -/
def rest (q : Rat) : Int := nearestInt (Int.fract q * 10 ^ 9)

theorem rest_bounds (q : Rat) : 0 ≤ rest q ∧ rest q ≤ 10 ^ 9 := by
  have below := Int.fract_nonneg q
  have above := Int.fract_lt_one q
  have second : Int.fract q * 10 ^ 9 ≤ ((10 ^ 9 : Int) : Rat) := by
    norm_num
    linarith
  refine ⟨nearestInt_nonneg (by positivity), ?_⟩
  rw [rest, ← nearestInt_intCast (10 ^ 9)]
  exact nearestInt_mono second

/-- A second has an even number of nanoseconds, so ties are broken alike in the part of a second
and in the whole. -/
theorem nearestInt_nanoseconds (q : Rat) :
    nearestInt (q * 10 ^ 9) = ⌊q⌋ * 10 ^ 9 + rest q := by
  have even : Even (⌊q⌋ * 10 ^ 9 : Int) := Even.mul_left (by decide) _
  have split : q * 10 ^ 9 = ((⌊q⌋ * 10 ^ 9 : Int) : Rat) + Int.fract q * 10 ^ 9 := by
    rw [Int.cast_mul, Int.cast_pow, Int.cast_ofNat, ← add_mul, Int.floor_add_fract]
  rw [split, nearestInt_intCast_add even, rest]

/-! ## The instant of a number -/

theorem ofExactSeconds_of_nonpos (past : q ≤ 0) : ofExactSeconds q = epoch :=
  if_neg (not_lt.mpr past)

theorem nanoseconds_ofExactSeconds (positive : 0 < q) :
    (ofExactSeconds q).nanoseconds = nearestInt (q * 10 ^ 9) := by
  unfold ofExactSeconds
  rw [if_pos positive]
  norm_num [nanosPerSecond]

theorem seconds_ofExactSeconds (positive : 0 < q) :
    (ofExactSeconds q).seconds = ⌊q⌋ + rest q / 10 ^ 9 := by
  unfold seconds nanosPerSecond
  rw [nanoseconds_ofExactSeconds positive, nearestInt_nanoseconds]
  omega

theorem subsecond_ofExactSeconds (positive : 0 < q) :
    (ofExactSeconds q).subsecond = rest q % 10 ^ 9 := by
  unfold subsecond nanosPerSecond
  rw [nanoseconds_ofExactSeconds positive, nearestInt_nanoseconds]
  omega

/-- Clamping to the epoch keeps the order as well, since nothing past it is taken for less. -/
theorem ofExactSeconds_mono (le : p ≤ q) : ofExactSeconds p ≤ ofExactSeconds q := by
  change (ofExactSeconds p).nanoseconds ≤ (ofExactSeconds q).nanoseconds
  obtain past | positive := le_or_gt p 0
  · rw [ofExactSeconds_of_nonpos past]
    obtain past' | positive' := le_or_gt q 0
    · rw [ofExactSeconds_of_nonpos past']
    · rw [nanoseconds_ofExactSeconds positive']
      exact nearestInt_nonneg (by positivity)
  · rw [nanoseconds_ofExactSeconds positive, nanoseconds_ofExactSeconds (positive.trans_le le)]
    exact nearestInt_mono (by gcongr)

/-- The instant is the one that a number of seconds is to be taken for. At most one second is
carried, and nothing is left of it below the seconds. -/
structure IsNearest (q : Rat) (t : Timestamp) : Prop where
  clamped : q ≤ 0 → t = epoch
  close : 0 < q → |t.nanoseconds - q * 10 ^ 9| ≤ 1 / 2
  even : 0 < q → |t.nanoseconds - q * 10 ^ 9| = 1 / 2 → Even t.nanoseconds
  seconds : 0 < q → t.seconds = ⌊q⌋ + rest q / 10 ^ 9
  subsecond : 0 < q → t.subsecond = rest q % 10 ^ 9
  carry : 0 < q → t.seconds = ⌊q⌋ ∨ t.seconds = ⌊q⌋ + 1 ∧ t.subsecond = 0
  parts : t.nanoseconds = t.seconds * 10 ^ 9 + t.subsecond
  within : 0 ≤ t.subsecond ∧ t.subsecond < 10 ^ 9

theorem isNearest_ofExactSeconds (q : Rat) : (ofExactSeconds q).IsNearest q where
  clamped := ofExactSeconds_of_nonpos
  close := by
    intro positive
    rw [nanoseconds_ofExactSeconds positive]
    exact abs_nearestInt_sub_le _
  even := by
    intro positive tie
    rw [nanoseconds_ofExactSeconds positive] at tie ⊢
    exact even_nearestInt_of_tie tie
  seconds := seconds_ofExactSeconds
  subsecond := subsecond_ofExactSeconds
  carry := by
    intro positive
    have bounds := rest_bounds q
    rw [seconds_ofExactSeconds positive, subsecond_ofExactSeconds positive]
    omega
  parts := nanoseconds_eq _
  within := subsecond_bounds _

end NotebookSim.Timestamp
