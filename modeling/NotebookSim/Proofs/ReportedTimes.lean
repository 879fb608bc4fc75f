import NotebookSim.Proofs.Overflow
import NotebookSim.Proofs.Rounding
/-!
Times that are reported and given back. The number of seconds that stands for an instant is rounded
twice, and the instant it is taken for once more. Early times survive this, and so do the multiples
of the 512th part of a second, which among milliseconds are the eighths of a second. The other
milliseconds of our days come back as another instant, though less than a millisecond away.
-/
namespace NotebookSim
namespace Timestamp

variable {t : Timestamp}

/-- The instant that the number reported for an instant is taken for. -/
def reread (t : Timestamp) : Timestamp := ofExactSeconds t.toSeconds.toRat

/-! ## The number that is reported -/

/-- The part of a second, rounded. -/
def fraction (t : Timestamp) : Rat := (Binary64.nearest (t.subsecond / 10 ^ 9)).toRat

theorem subsecond_bounds (t : Timestamp) : 0 ≤ t.subsecond ∧ t.subsecond < 10 ^ 9 := by
  unfold subsecond nanosPerSecond
  omega

theorem nanoseconds_eq (t : Timestamp) : t.nanoseconds = t.seconds * 10 ^ 9 + t.subsecond := by
  unfold subsecond seconds nanosPerSecond
  omega

theorem abs_fraction_sub_le (t : Timestamp) :
    |t.fraction - t.subsecond / 10 ^ 9| ≤ 2 ^ (-54 : Int) := by
  obtain ⟨nonneg, below⟩ := t.subsecond_bounds
  have nonneg' : (0 : Rat) ≤ t.subsecond := by exact_mod_cast nonneg
  have below' : (t.subsecond : Rat) < 10 ^ 9 := by exact_mod_cast below
  refine Binary64.abs_toRat_nearest_sub_le (k := 0) (by positivity) ?_ (by norm_num)
  rw [zpow_zero, div_lt_one (by norm_num)]
  exact below'

theorem fraction_nonneg (t : Timestamp) : 0 ≤ t.fraction := by
  have nonneg : (0 : Rat) ≤ t.subsecond := by exact_mod_cast t.subsecond_bounds.1
  exact Binary64.toRat_nearest_nonneg (by positivity)

theorem fraction_lt_one (t : Timestamp) : t.fraction < 1 := by
  have last : (t.subsecond : Rat) ≤ 10 ^ 9 - 1 := by
    have below := t.subsecond_bounds.2
    exact_mod_cast (by omega : t.subsecond ≤ 10 ^ 9 - 1)
  have close := (abs_le.mp t.abs_fraction_sub_le).2
  have small : (2 : Rat) ^ (-54 : Int) < 1 / 10 ^ 9 := by norm_num
  have part : (t.subsecond : Rat) / 10 ^ 9 ≤ 1 - 1 / 10 ^ 9 := by
    rw [div_le_iff₀ (by norm_num)]
    linarith
  linarith

theorem seconds_lt {k : Nat} (before : t.nanoseconds < 2 ^ k * 10 ^ 9) : t.seconds < 2 ^ k := by
  unfold seconds nanosPerSecond
  omega

section Since

variable (since : 0 ≤ t.nanoseconds)
include since

theorem seconds_nonneg : 0 ≤ t.seconds := by
  unfold seconds nanosPerSecond
  omega

theorem toRat_toSeconds (fits : t.seconds < 2 ^ 53) :
    t.toSeconds.toRat = (Binary64.nearest (t.seconds + t.fraction)).toRat := by
  obtain ⟨nonneg, below⟩ := t.subsecond_bounds
  have whole := Binary64.toRat_ofInt (seconds_nonneg since) fits
  have part := Binary64.toRat_ofInt nonneg (by omega)
  have unit := Binary64.toRat_ofNat (n := nanosPerSecond) (by decide)
  unfold toSeconds Binary64.add Binary64.div
  rw [if_neg (by omega), whole, part, unit]
  norm_num [nanosPerSecond, fraction]

theorem toRat_toSeconds_nonneg (fits : t.seconds < 2 ^ 53) : 0 ≤ t.toSeconds.toRat := by
  have whole : (0 : Rat) ≤ t.seconds := by exact_mod_cast seconds_nonneg since
  have part := t.fraction_nonneg
  rw [toRat_toSeconds since fits]
  exact Binary64.toRat_nearest_nonneg (by positivity)

theorem nanoseconds_reread (fits : t.seconds < 2 ^ 53) :
    t.reread.nanoseconds = nearestInt (t.toSeconds.toRat * 10 ^ 9) := by
  unfold reread ofExactSeconds
  split_ifs with positive
  · norm_num [nanosPerSecond]
  · have zero := le_antisymm (not_lt.mp positive) (toRat_toSeconds_nonneg since fits)
    rw [zero, zero_mul, nearestInt_zero]
    rfl

section Before

variable {k : Nat} (before : t.nanoseconds < 2 ^ k * 10 ^ 9)
include before

/-- The two roundings of the number come to this many seconds at most. -/
theorem abs_toSeconds_sub_le (small : k ≤ 53) :
    |t.toSeconds.toRat - t.nanoseconds / 10 ^ 9| ≤ (2 ^ k + 1) / 2 ^ 54 := by
  have whole : (t.seconds : Rat) + 1 ≤ 2 ^ k := by exact_mod_cast seconds_lt before
  have whole' : (0 : Rat) ≤ t.seconds := by exact_mod_cast seconds_nonneg since
  have part := t.fraction_lt_one
  have part' := t.fraction_nonneg
  have fits : t.seconds < 2 ^ 53 :=
    (seconds_lt before).trans_le (pow_le_pow_right₀ (by norm_num) small)
  have exact : (t.nanoseconds / 10 ^ 9 : Rat) = t.seconds + t.subsecond / 10 ^ 9 := by
    rw [nanoseconds_eq t]
    push_cast
    ring
  have sum : |t.toSeconds.toRat - (t.seconds + t.fraction)| ≤ 2 ^ (k - 54 : Int) := by
    rw [toRat_toSeconds since fits]
    refine Binary64.abs_toRat_nearest_sub_le (by positivity) ?_ (by omega)
    rw [zpow_natCast]
    linarith
  calc |t.toSeconds.toRat - t.nanoseconds / 10 ^ 9|
      = |(t.toSeconds.toRat - (t.seconds + t.fraction)) +
          (t.fraction - t.subsecond / 10 ^ 9)| := by
        rw [exact]
        congr 1
        ring
    _ ≤ 2 ^ (k - 54 : Int) + 2 ^ (-54 : Int) :=
        (abs_add_le _ _).trans (add_le_add sum t.abs_fraction_sub_le)
    _ = (2 ^ k + 1) / 2 ^ 54 := by
        rw [sub_eq_add_neg, zpow_add₀ two_ne_zero, zpow_natCast]
        norm_num
        ring

/-- What is read back is that far off, and half a nanosecond. -/
theorem drift_le (small : k ≤ 53) :
    2 ^ 54 * |t.reread.nanoseconds - t.nanoseconds| ≤ 10 ^ 9 * (2 ^ k + 1) + 2 ^ 53 := by
  have fits : t.seconds < 2 ^ 53 :=
    (seconds_lt before).trans_le (pow_le_pow_right₀ (by norm_num) small)
  have written := abs_toSeconds_sub_le since before small
  have read := abs_nearestInt_sub_le (t.toSeconds.toRat * 10 ^ 9)
  rw [← nanoseconds_reread since fits] at read
  have total : |(t.reread.nanoseconds : Rat) - t.nanoseconds| ≤
      1 / 2 + 10 ^ 9 * ((2 ^ k + 1) / 2 ^ 54) := by
    calc |(t.reread.nanoseconds : Rat) - t.nanoseconds|
        = |(t.reread.nanoseconds - t.toSeconds.toRat * 10 ^ 9) +
            10 ^ 9 * (t.toSeconds.toRat - t.nanoseconds / 10 ^ 9)| := by
          congr 1
          ring
      _ ≤ 1 / 2 + 10 ^ 9 * ((2 ^ k + 1) / 2 ^ 54) := by
          refine (abs_add_le _ _).trans (add_le_add read ?_)
          rw [abs_mul, abs_of_pos (by norm_num)]
          gcongr
  have scaled : (2 : Rat) ^ 54 * |(t.reread.nanoseconds : Rat) - t.nanoseconds| ≤
      10 ^ 9 * (2 ^ k + 1) + 2 ^ 53 := by
    linarith
  exact_mod_cast scaled

end Before

/-! ## What is read back -/

/-- Before `2 ^ 23` seconds, which is in the first hundred days, nothing is lost. -/
theorem reread_of_early (early : t.nanoseconds < 2 ^ 23 * 10 ^ 9) : t.reread = t := by
  have drift := drift_le since early (by decide)
  have none : |t.reread.nanoseconds - t.nanoseconds| < 1 := by omega
  have same := Int.sub_eq_zero.mp (Int.abs_lt_one_iff.mp none)
  cases t
  exact congrArg mk same

theorem drift_lt_millisecond (before : t.nanoseconds < 2 ^ 44 * 10 ^ 9) :
    |t.reread.nanoseconds - t.nanoseconds| < 10 ^ 6 := by
  have drift := drift_le since before (by decide)
  omega

/-- A multiple of the 512th part of a second has few bits, so it is reported exactly. -/
theorem toRat_toSeconds_of_dvd (before : t.nanoseconds < 2 ^ 44 * 10 ^ 9)
    (part : 5 ^ 9 ∣ t.nanoseconds) : t.toSeconds.toRat = t.nanoseconds / 10 ^ 9 := by
  have least : Binary64.leastExponent ≤ -9 := by decide
  have low := seconds_lt before
  have nonneg := seconds_nonneg since
  obtain ⟨j, sub⟩ : ∃ j : Nat, t.subsecond = 5 ^ 9 * j := by
    obtain ⟨m, multiple⟩ := part
    refine ⟨(m % 2 ^ 9).toNat, ?_⟩
    unfold subsecond nanosPerSecond
    omega
  have few : j < 2 ^ 9 := by
    have below := t.subsecond_bounds.2
    omega
  obtain ⟨n, sum⟩ : ∃ n : Nat, t.seconds * 2 ^ 9 + j = n := Int.eq_ofNat_of_zero_le (by omega)
  have sum' : (t.seconds * 2 ^ 9 + j : Rat) = n := by exact_mod_cast sum
  have fraction : t.fraction = j * 2 ^ (-9 : Int) := by
    have quotient : (t.subsecond / 10 ^ 9 : Rat) = j * 2 ^ (-9 : Int) := by
      rw [sub]
      push_cast
      norm_num
      ring
    rw [fraction, quotient]
    exact Binary64.toRat_nearest_of_fits (by omega) least
  have scaled : (t.seconds + t.fraction : Rat) = n * 2 ^ (-9 : Int) := by
    rw [fraction, ← sum']
    norm_num
    ring
  rw [toRat_toSeconds since (by omega), scaled,
    Binary64.toRat_nearest_of_fits (by omega) least, ← scaled, fraction, nanoseconds_eq t, sub]
  push_cast
  norm_num
  ring

theorem reread_of_dvd (before : t.nanoseconds < 2 ^ 44 * 10 ^ 9) (part : 5 ^ 9 ∣ t.nanoseconds) :
    t.reread = t := by
  have fits : t.seconds < 2 ^ 53 := (seconds_lt before).trans_le (by norm_num)
  have same : t.reread.nanoseconds = t.nanoseconds := by
    rw [nanoseconds_reread since fits, toRat_toSeconds_of_dvd since before part,
      div_mul_cancel₀ _ (by norm_num), nearestInt_intCast]
  cases t
  exact congrArg mk same

/-- From `2 ^ 29` seconds on, the numbers that can be reported are so far from all other multiples
of a millisecond that these are not read back. -/
theorem dvd_of_reread (late : 2 ^ 29 * 10 ^ 9 ≤ t.nanoseconds)
    (before : t.nanoseconds < 2 ^ 44 * 10 ^ 9) (clock : 10 ^ 6 ∣ t.nanoseconds)
    (same : t.reread = t) : 5 ^ 9 ∣ t.nanoseconds := by
  have fits : t.seconds < 2 ^ 53 := (seconds_lt before).trans_le (by norm_num)
  obtain ⟨j, grid⟩ : ∃ j : Int, t.toSeconds.toRat = j * 2 ^ (-23 : Int) := by
    rw [toRat_toSeconds since fits]
    refine Binary64.exists_toRat_nearest_eq ?_ (by decide)
    have whole : (2 ^ 29 : Rat) ≤ t.seconds := by
      have whole : 2 ^ 29 ≤ t.seconds := by
        unfold seconds nanosPerSecond
        omega
      exact_mod_cast whole
    have part := t.fraction_nonneg
    norm_num at whole ⊢
    linarith
  obtain ⟨m, multiple⟩ := clock
  have read := abs_nearestInt_sub_le (t.toSeconds.toRat * 10 ^ 9)
  rw [← nanoseconds_reread since fits, same, grid, multiple] at read
  -- Both are multiples of `1 / (125 * 2 ^ 23)` seconds, and they are less than one of these apart.
  have close : |((m * 2 ^ 20 - 125 * j : Int) : Rat)| < 1 := by
    have scaled : ((m * 2 ^ 20 - 125 * j : Int) : Rat) =
        (((10 ^ 6 * m : Int) : Rat) - j * 2 ^ (-23 : Int) * 10 ^ 9) * (2 ^ 20 / 10 ^ 6) := by
      push_cast
      norm_num
      ring
    rw [scaled, abs_mul, abs_of_pos (show (0 : Rat) < 2 ^ 20 / 10 ^ 6 by norm_num)]
    linarith
  have none : |m * 2 ^ 20 - 125 * j| < 1 := by exact_mod_cast close
  have equal := Int.abs_lt_one_iff.mp none
  omega

theorem toRat_toSeconds_lt (before : t.nanoseconds < 2 ^ 44 * 10 ^ 9) :
    t.toSeconds.toRat < secondsLimit := by
  have close := (abs_le.mp (abs_toSeconds_sub_le since before (by decide))).2
  have whole : (t.nanoseconds : Rat) < 2 ^ 44 * 10 ^ 9 := by exact_mod_cast before
  have seconds : (t.nanoseconds / 10 ^ 9 : Rat) < 2 ^ 44 := by
    rwa [div_lt_iff₀ (by norm_num)]
  norm_num [secondsLimit, Nat.shiftLeft_eq] at close seconds ⊢
  linarith

end Since

/-- What becomes of the time of a record that is reported and given back in a request. -/
structure ReadsBack (t : Timestamp) : Prop where
  accepted : ∀ place, Reader.timestamp place t.toJson = .ok t.reread
  drift : ∀ k ≤ 53, t.nanoseconds < 2 ^ k * 10 ^ 9 →
    2 ^ 54 * |t.reread.nanoseconds - t.nanoseconds| ≤ 10 ^ 9 * (2 ^ k + 1) + 2 ^ 53
  millisecond : |t.reread.nanoseconds - t.nanoseconds| < 10 ^ 6
  early : t.nanoseconds < 2 ^ 23 * 10 ^ 9 → t.reread = t
  part : 5 ^ 9 ∣ t.nanoseconds → t.reread = t
  clock : 2 ^ 29 * 10 ^ 9 ≤ t.nanoseconds → 10 ^ 6 ∣ t.nanoseconds →
    t.reread = t → 5 ^ 9 ∣ t.nanoseconds

theorem readsBack (since : 0 ≤ t.nanoseconds) (before : t.nanoseconds < 2 ^ 44 * 10 ^ 9) :
    t.ReadsBack where
  accepted := by
    intro place
    have read : Reader.number .request t.toJson = .ok t.toSeconds := rfl
    rw [Reader.timestamp_of_number read, if_pos (toRat_toSeconds_lt since before)]
    rfl
  drift := fun k small earlier => drift_le since earlier small
  millisecond := drift_lt_millisecond since before
  early := reread_of_early since
  part := reread_of_dvd since before
  clock := fun late clock => dvd_of_reread since late before clock

/-- A reported time is read as nothing else. -/
theorem eq_reread_of_read {place : Place} {u : Timestamp}
    (read : Reader.timestamp place t.toJson = .ok u) : u = t.reread := by
  have number : Reader.number .request t.toJson = .ok t.toSeconds := rfl
  rw [Reader.timestamp_of_number number] at read
  split at read
  · exact (Except.ok.inj read).symm
  · cases read

end Timestamp
end NotebookSim
