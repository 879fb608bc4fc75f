import Mathlib
import NotebookSim.Binary64
/-!
How far rounding goes. The nearest integer is within a half of the number, and the nearest binary64
number within half a unit in its last place; what has a significand of 53 bits is not changed, and
what is large stands on a coarse grid after it. Neither rounding turns the order of two numbers
around.
-/
namespace NotebookSim

/-! ## Integers -/

theorem nearestInt_floor_or (q : Rat) : nearestInt q = q.floor ∨ nearestInt q = q.floor + 1 := by
  simp only [nearestInt]
  grind

theorem abs_nearestInt_sub_le (q : Rat) : |(nearestInt q : Rat) - q| ≤ 1 / 2 := by
  have below : ((q.floor : Int) : Rat) ≤ q := Rat.floor_le q
  have above : q < ((q.floor + 1 : Int) : Rat) := Rat.lt_floor_add_one q
  push_cast at above
  rw [abs_le]
  unfold nearestInt
  dsimp only
  split_ifs <;> push_cast <;> constructor <;> linarith

/-- No other integer is within a half of the number. -/
theorem nearestInt_eq_of_close {q : Rat} {n : Int} (close : |q - n| < 1 / 2) :
    nearestInt q = n := by
  have apart : |((nearestInt q - n : Int) : Rat)| < 1 := by
    push_cast
    calc |(nearestInt q : Rat) - n|
        ≤ |(nearestInt q : Rat) - q| + |q - n| := abs_sub_le _ _ _
      _ < 1 / 2 + 1 / 2 := add_lt_add_of_le_of_lt (abs_nearestInt_sub_le q) close
      _ = 1 := by norm_num
  have same : |nearestInt q - n| < 1 := by exact_mod_cast apart
  exact Int.sub_eq_zero.mp (Int.abs_lt_one_iff.mp same)

@[simp] theorem nearestInt_intCast (n : Int) : nearestInt n = n :=
  nearestInt_eq_of_close (by simp)

@[simp] theorem nearestInt_zero : nearestInt 0 = 0 := nearestInt_intCast 0

theorem nearestInt_nonneg {q : Rat} (nonneg : 0 ≤ q) : 0 ≤ nearestInt q := by
  have below : 0 ≤ q.floor := Rat.le_floor_iff.mpr (by exact_mod_cast nonneg)
  obtain same | next := nearestInt_floor_or q
  · omega
  · omega

/-- Neither of two integers in the wrong order is farther than a half from its number, so the two
numbers would be the same. -/
theorem nearestInt_mono {p q : Rat} (le : p ≤ q) : nearestInt p ≤ nearestInt q := by
  by_contra less
  have step : nearestInt q + 1 ≤ nearestInt p := by omega
  have step' : (nearestInt q : Rat) + 1 ≤ nearestInt p := by exact_mod_cast step
  have closeP := abs_le.mp (abs_nearestInt_sub_le p)
  have closeQ := abs_le.mp (abs_nearestInt_sub_le q)
  have same : p = q := by linarith
  subst same
  omega

theorem even_nearestInt_of_tie {q : Rat} (tie : |(nearestInt q : Rat) - q| = 1 / 2) :
    Even (nearestInt q) := by
  have below : ((q.floor : Int) : Rat) ≤ q := Rat.floor_le q
  have above : q < ((q.floor + 1 : Int) : Rat) := Rat.lt_floor_add_one q
  push_cast at above
  unfold nearestInt at tie ⊢
  dsimp only at tie ⊢
  split_ifs at tie ⊢ with less more even
  · rw [abs_sub_comm, abs_of_nonneg (by linarith)] at tie
    exact absurd tie less.ne
  · push_cast at tie
    rw [abs_of_pos (by linarith)] at tie
    linarith
  · exact Int.even_iff.mpr even
  · exact Int.even_iff.mpr (by omega)

/-- An even integer may be added before or after; an odd one would turn ties around. -/
theorem nearestInt_intCast_add {n : Int} (even : Even n) (q : Rat) :
    nearestInt (n + q) = n + nearestInt q := by
  have parity := Int.even_iff.mp even
  have whole : (n + q).floor = n + q.floor := Int.floor_intCast_add n q
  have rest : n + q - ((n + q).floor : Int) = q - q.floor := by
    rw [whole]
    push_cast
    ring
  unfold nearestInt
  dsimp only
  rw [rest, whole]
  split_ifs <;> omega

/-! ## Binary64 numbers -/

namespace Binary64

theorem two_zpow_add_natCast (e : Int) (n : Nat) :
    (2 : Rat) ^ (e + n) = ((2 ^ n : Int) : Rat) * 2 ^ e := by
  rw [zpow_add₀ two_ne_zero, zpow_natCast, mul_comm]
  norm_cast

variable {q : Rat}

theorem lt_two_zpow_iff (positive : 0 < q) (e : Int) : q < 2 ^ e ↔ Int.log 2 q < e :=
  mod_cast Int.lt_zpow_iff_log_lt one_lt_two positive

/-- The logarithms of numerator and denominator tell that of the quotient, but for one. -/
theorem log_bounds (positive : 0 < q) :
    (q.num.natAbs.log2 : Int) - q.den.log2 - 1 ≤ Int.log 2 q ∧
      Int.log 2 q ≤ (q.num.natAbs.log2 : Int) - q.den.log2 := by
  obtain ⟨n, num⟩ : ∃ n : Nat, q.num = n :=
    Int.eq_ofNat_of_zero_le (Rat.num_nonneg.mpr positive.le)
  have nonzero : n ≠ 0 := by
    rintro rfl
    exact absurd (Rat.num_eq_zero.mp num) positive.ne'
  have quotient : q * q.den = n := by
    rw [Rat.mul_den_eq_num, num, Int.cast_natCast]
  have den : (0 : Rat) < q.den := by exact_mod_cast q.den_pos
  have numLow : (2 : Rat) ^ (n.log2 : Int) ≤ n := by exact_mod_cast Nat.log2_self_le nonzero
  have numHigh : (n : Rat) < 2 ^ (n.log2 + 1 : Int) := by exact_mod_cast Nat.lt_log2_self
  have denLow : (2 : Rat) ^ (q.den.log2 : Int) ≤ q.den := by
    exact_mod_cast Nat.log2_self_le q.den_nz
  have denHigh : (q.den : Rat) < 2 ^ (q.den.log2 + 1 : Int) := by exact_mod_cast Nat.lt_log2_self
  have low : ¬ q < 2 ^ (n.log2 - q.den.log2 - 1 : Int) := by
    rw [not_lt]
    refine le_of_mul_le_mul_right ?_ den
    calc (2 : Rat) ^ (n.log2 - q.den.log2 - 1 : Int) * q.den
        ≤ 2 ^ (n.log2 - q.den.log2 - 1 : Int) * 2 ^ (q.den.log2 + 1 : Int) := by gcongr
      _ = 2 ^ (n.log2 : Int) := by
          rw [← zpow_add₀ two_ne_zero]
          congr 1
          omega
      _ ≤ q * q.den := numLow.trans quotient.ge
  have high : q < 2 ^ (n.log2 - q.den.log2 + 1 : Int) := by
    refine lt_of_mul_lt_mul_right ?_ den.le
    calc q * q.den
        < 2 ^ (n.log2 + 1 : Int) := quotient.trans_lt numHigh
      _ = 2 ^ (n.log2 - q.den.log2 + 1 : Int) * 2 ^ (q.den.log2 : Int) := by
          rw [← zpow_add₀ two_ne_zero]
          congr 1
          omega
      _ ≤ 2 ^ (n.log2 - q.den.log2 + 1 : Int) * q.den := by gcongr
  rw [lt_two_zpow_iff positive] at low high
  rw [num, Int.natAbs_natCast]
  omega

theorem exponentOf_eq (positive : 0 < q) :
    exponentOf q = max (Int.log 2 q - 52) leastExponent := by
  obtain ⟨low, high⟩ := log_bounds positive
  unfold exponentOf
  simp only [sub_add_cancel, lt_two_zpow_iff positive]
  congr 1
  split_ifs <;> omega

theorem exponentOf_le_iff (positive : 0 < q) {e : Int} (least : leastExponent ≤ e) :
    exponentOf q ≤ e ↔ q < 2 ^ (e + 53) := by
  rw [exponentOf_eq positive, lt_two_zpow_iff positive]
  omega

theorem toRat_nearest (nonneg : 0 ≤ q) :
    (nearest q).toRat = nearestInt (q / 2 ^ exponentOf q) * 2 ^ exponentOf q := by
  obtain rfl | nonzero := eq_or_ne q 0
  · simp [nearest, toRat, zero]
  · have magnitude (m : Nat) (e : Int) :
        toRat { normalized m e with negative := false } = m * 2 ^ e := by
      unfold normalized
      split_ifs with full
      · subst full
        change ((1 <<< 52 : Nat) : Rat) * (2 : Rat) ^ (e + 1) = ((1 <<< 53 : Nat) : Rat) * 2 ^ e
        rw [zpow_add₀ two_ne_zero]
        norm_num [Nat.shiftLeft_eq]
        ring
      · rfl
    have whole : 0 ≤ nearestInt (q / 2 ^ exponentOf q) :=
      nearestInt_nonneg (div_nonneg nonneg (zpow_pos two_pos _).le)
    have unsigned : ¬ q < 0 := nonneg.not_gt
    unfold nearest
    simp only [if_neg nonzero, if_neg unsigned, decide_eq_false unsigned, magnitude]
    rw [← Int.cast_natCast, Int.toNat_of_nonneg whole]

theorem toRat_nearest_nonneg (nonneg : 0 ≤ q) : 0 ≤ (nearest q).toRat := by
  rw [toRat_nearest nonneg]
  have whole := nearestInt_nonneg (div_nonneg nonneg (zpow_pos two_pos (exponentOf q)).le)
  exact mul_nonneg (by exact_mod_cast whole) (zpow_pos two_pos _).le

/-- Below a power of two the error is half a unit of the 53 bits that stand below it. -/
theorem abs_toRat_nearest_sub_le (nonneg : 0 ≤ q) {k : Int} (below : q < 2 ^ k)
    (normal : -1021 ≤ k) : |(nearest q).toRat - q| ≤ 2 ^ (k - 54) := by
  obtain rfl | positive := nonneg.eq_or_lt
  · rw [toRat_nearest le_rfl]
    simpa using (zpow_pos (zero_lt_two' Rat) (k - 54)).le
  · have exponent : exponentOf q ≤ k - 53 := by
      rw [exponentOf_le_iff positive (by unfold leastExponent; omega)]
      simpa using below
    have unit : (0 : Rat) < 2 ^ exponentOf q := zpow_pos two_pos _
    have scaled : (nearest q).toRat - q =
        (nearestInt (q / 2 ^ exponentOf q) - q / 2 ^ exponentOf q) * 2 ^ exponentOf q := by
      rw [toRat_nearest nonneg, sub_mul, div_mul_cancel₀ q unit.ne']
    rw [scaled, abs_mul, abs_of_pos unit]
    calc |(nearestInt (q / 2 ^ exponentOf q) : Rat) - q / 2 ^ exponentOf q| * 2 ^ exponentOf q
        ≤ 1 / 2 * 2 ^ (k - 53) := by
          gcongr
          · exact abs_nearestInt_sub_le _
          · norm_num
      _ = 2 ^ (k - 54) := by
          rw [show k - 53 = k - 54 + 1 by omega, zpow_add₀ two_ne_zero]
          ring

/-- A number of 53 bits is its own nearest one. -/
theorem toRat_nearest_of_fits {n : Nat} (fits : n < 2 ^ 53) {e : Int} (least : leastExponent ≤ e) :
    (nearest (n * 2 ^ e)).toRat = n * 2 ^ e := by
  obtain rfl | nonzero := n.eq_zero_or_pos
  · rw [Nat.cast_zero, zero_mul, toRat_nearest le_rfl, zero_div, nearestInt_zero, Int.cast_zero,
      zero_mul]
  · have positive : (0 : Rat) < n * 2 ^ e := by positivity
    have exponent : exponentOf (n * 2 ^ e) ≤ e := by
      rw [exponentOf_le_iff positive least, zpow_add₀ two_ne_zero, mul_comm]
      gcongr
      exact_mod_cast fits
    rw [toRat_nearest positive.le]
    obtain ⟨d, shift⟩ := Int.exists_add_of_le exponent
    generalize exponentOf (n * 2 ^ e) = f at shift ⊢
    subst shift
    have whole : (n * 2 ^ (f + d) : Rat) = ((n * 2 ^ d : Int) : Rat) * 2 ^ f := by
      rw [two_zpow_add_natCast]
      push_cast
      ring
    rw [whole, mul_div_cancel_right₀ _ (zpow_pos two_pos f).ne', nearestInt_intCast]

theorem toRat_ofNat {n : Nat} (fits : n < 2 ^ 53) : (ofNat n).toRat = n := by
  have whole := toRat_nearest_of_fits fits (e := 0) (by decide)
  rwa [zpow_zero, mul_one] at whole

theorem toRat_ofInt {i : Int} (nonneg : 0 ≤ i) (fits : i < 2 ^ 53) : (ofInt i).toRat = i := by
  obtain ⟨n, rfl⟩ := Int.eq_ofNat_of_zero_le nonneg
  rw [Int.cast_natCast]
  exact toRat_ofNat (by exact_mod_cast fits)

/-- Numbers from this size on have no bits below the place of `2 ^ e`. -/
theorem exists_toRat_nearest_eq {e : Int} (large : 2 ^ (e + 52) ≤ q) (least : leastExponent < e) :
    ∃ j : Int, (nearest q).toRat = j * 2 ^ e := by
  have positive : 0 < q := (zpow_pos two_pos _).trans_le large
  have exponent : e ≤ exponentOf q := by
    by_contra less
    have below := (exponentOf_le_iff positive (e := e - 1) (by omega)).mp (by omega)
    rw [show e - 1 + 53 = e + 52 by omega] at below
    exact below.not_ge large
  obtain ⟨d, shift⟩ := Int.exists_add_of_le exponent
  refine ⟨nearestInt (q / 2 ^ exponentOf q) * 2 ^ d, ?_⟩
  rw [toRat_nearest positive.le]
  generalize nearestInt (q / 2 ^ exponentOf q) = n
  rw [shift, two_zpow_add_natCast]
  push_cast
  ring

/-! ## The order of numbers -/

section Order

variable {p : Rat}

/-- A multiple of its unit that bounds a number also bounds what the number is rounded to. -/
theorem toRat_nearest_le (nonneg : 0 ≤ q) {n : Int} (le : q ≤ n * 2 ^ exponentOf q) :
    (nearest q).toRat ≤ n * 2 ^ exponentOf q := by
  have unit : (0 : Rat) < 2 ^ exponentOf q := zpow_pos two_pos _
  have rounded := nearestInt_mono ((div_le_iff₀ unit).mpr le)
  rw [nearestInt_intCast] at rounded
  rw [toRat_nearest nonneg]
  gcongr

theorem le_toRat_nearest (nonneg : 0 ≤ q) {n : Int} (le : n * 2 ^ exponentOf q ≤ q) :
    n * 2 ^ exponentOf q ≤ (nearest q).toRat := by
  have unit : (0 : Rat) < 2 ^ exponentOf q := zpow_pos two_pos _
  have rounded := nearestInt_mono ((le_div_iff₀ unit).mpr le)
  rw [nearestInt_intCast] at rounded
  rw [toRat_nearest nonneg]
  gcongr

theorem exponentOf_mono (positive : 0 < p) (le : p ≤ q) : exponentOf p ≤ exponentOf q := by
  have logs := Int.log_mono_right (b := 2) positive le
  rw [exponentOf_eq positive, exponentOf_eq (positive.trans_le le)]
  omega

theorem toRat_nearest_mono_of_nonneg (nonneg : 0 ≤ p) (le : p ≤ q) :
    (nearest p).toRat ≤ (nearest q).toRat := by
  obtain rfl | positive := nonneg.eq_or_lt
  · rw [toRat_nearest le_rfl, zero_div, nearestInt_zero, Int.cast_zero, zero_mul]
    exact toRat_nearest_nonneg le
  · have positive' := positive.trans_le le
    obtain same | less := (exponentOf_mono positive le).eq_or_lt
    · have unit : (0 : Rat) < 2 ^ exponentOf q := zpow_pos two_pos _
      have rounded : nearestInt (p / 2 ^ exponentOf q) ≤ nearestInt (q / 2 ^ exponentOf q) :=
        nearestInt_mono (by gcongr)
      rw [toRat_nearest nonneg, toRat_nearest positive'.le, same]
      gcongr
    · -- Between numbers whose units differ there is a power of two, a multiple of both units.
      have least : leastExponent ≤ exponentOf p := by
        rw [exponentOf_eq positive]
        omega
      have below := (exponentOf_le_iff positive (e := exponentOf q - 1) (by omega)).mp (by omega)
      have above := (exponentOf_le_iff positive' (e := exponentOf q - 1) (by omega)).not.mp
        (by omega)
      obtain ⟨d, shift⟩ := Int.exists_add_of_le less.le
      rw [show exponentOf q - 1 + 53 = exponentOf q + (52 : Nat) by omega] at below above
      rw [two_zpow_add_natCast] at above
      rw [shift, add_assoc, ← Nat.cast_add, two_zpow_add_natCast] at below
      calc (nearest p).toRat
          ≤ ((2 ^ (d + 52) : Int) : Rat) * 2 ^ exponentOf p := toRat_nearest_le nonneg below.le
        _ = ((2 ^ 52 : Int) : Rat) * 2 ^ exponentOf q := by
            rw [← two_zpow_add_natCast, ← two_zpow_add_natCast, shift, Nat.cast_add, add_assoc]
        _ ≤ (nearest q).toRat := le_toRat_nearest positive'.le (not_lt.mp above)

theorem toRat_nearest_neg (q : Rat) : (nearest (-q)).toRat = -(nearest q).toRat := by
  have mirrored {q : Rat} (positive : 0 < q) : (nearest (-q)).toRat = -(nearest q).toRat := by
    simp [nearest, toRat, positive, positive.ne', positive.not_gt]
  obtain negative | rfl | positive := lt_trichotomy q 0
  · rw [← neg_eq_iff_eq_neg, ← mirrored (neg_pos.mpr negative), neg_neg]
  · simp [nearest, toRat, zero]
  · exact mirrored positive

theorem toRat_nearest_mono (le : p ≤ q) : (nearest p).toRat ≤ (nearest q).toRat := by
  obtain nonneg | negative := le_or_gt 0 p
  · exact toRat_nearest_mono_of_nonneg nonneg le
  · rw [← neg_neg p, toRat_nearest_neg]
    obtain nonneg | negative' := le_or_gt 0 q
    · have left := toRat_nearest_nonneg (neg_pos.mpr negative).le
      have right := toRat_nearest_nonneg nonneg
      linarith
    · rw [← neg_neg q, toRat_nearest_neg (-q), neg_le_neg_iff]
      exact toRat_nearest_mono_of_nonneg (neg_pos.mpr negative').le (neg_le_neg le)

end Order

end Binary64
end NotebookSim
