import Mathlib.Algebra.Order.Field.Power
import Mathlib.Data.Int.Log
import Mathlib.Data.Rat.Floor
import Mathlib.Tactic.FieldSimp
import Mathlib.Tactic.Linarith
import Mathlib.Tactic.Positivity
import Mathlib.Tactic.Ring
import SyncPods.Decimal.Binary64

/-!
# Rounding to double precision

A quotient is rounded to a multiple of a power of two that depends on its size. A greater quotient
never becomes a smaller number, and the result is in the format unless the quotient is nearer to
what lies beyond it than to its greatest number.
-/

namespace SyncPods.Binary64

/-- Whether a number is one of the format. -/
structure Fits (x : Binary64) : Prop where
  significand : x.significand < 2 ^ 53
  least : minExponent ≤ x.exponent
  greatest : x.exponent ≤ maxExponent

/-- A number without its sign. -/
def magnitude (x : Binary64) : ℚ := x.significand * 2 ^ x.exponent

/-- The quotients from here on are rounded to nothing in the format. -/
def overflow : ℕ := (2 ^ 54 - 1) * 2 ^ 970

/-- The greatest significand at the greatest exponent, and a half more. -/
theorem overflow_eq : (overflow : ℚ) = ((2 ^ 53 - 1 : ℕ) + 1 / 2) * 2 ^ (971 : ℤ) := by
  have next : (971 : ℤ) = 1 + (970 : ℕ) := rfl
  rw [next, zpow_add₀ (by norm_num), zpow_natCast, overflow, Nat.cast_mul, Nat.cast_pow,
    ← mul_assoc]
  congr 1
  norm_num

theorem fits_zero (negative : Bool) : (zero negative).Fits :=
  ⟨by simp [zero], Int.le_refl _, by simp [zero, minExponent, maxExponent]⟩

theorem magnitude_zero (negative : Bool) : (zero negative).magnitude = 0 := by
  simp [magnitude, zero]

theorem magnitude_nonneg (x : Binary64) : 0 ≤ x.magnitude := by
  unfold magnitude
  positivity

/-! ## Whole numbers -/

section Whole

variable {num den num' den' k : ℕ}

theorem div_le_roundHalfEven (num den : ℕ) : num / den ≤ roundHalfEven num den := by
  rw [roundHalfEven]
  split <;> omega

theorem roundHalfEven_le_div_add_one (num den : ℕ) : roundHalfEven num den ≤ num / den + 1 := by
  rw [roundHalfEven]
  split <;> omega

theorem roundHalfEven_one (n : ℕ) : roundHalfEven n 1 = n := by
  simp [roundHalfEven, Nat.mod_one]

/-- A whole number that is not above a quotient is not above what it is rounded to. -/
theorem le_roundHalfEven (positive : 0 < den) (bound : k ≤ (num : ℚ) / den) :
    k ≤ roundHalfEven num den := by
  rw [le_div_iff₀ (by exact_mod_cast positive)] at bound
  have floor : k ≤ num / den := (Nat.le_div_iff_mul_le positive).mpr (by exact_mod_cast bound)
  exact floor.trans (div_le_roundHalfEven num den)

/-- Less than a half above a whole number is rounded off. -/
theorem roundHalfEven_le_of_half (positive : 0 < den) (bound : (num : ℚ) / den < k + 1 / 2) :
    roundHalfEven num den ≤ k := by
  rw [div_lt_iff₀ (by exact_mod_cast positive)] at bound
  have twice : 2 * num < (2 * k + 1) * den := by
    have : 2 * (num : ℚ) < (2 * k + 1) * den := by linarith
    exact_mod_cast this
  have parts := Nat.div_add_mod num den
  have halves : (2 * k + 1) * den = 2 * (den * k) + den := by ring
  have next : (k + 1) * den = den * k + den := by ring
  have floor : num / den < k + 1 := (Nat.div_lt_iff_lt_mul positive).mpr (by omega)
  rw [roundHalfEven]
  split
  · omega
  · next up =>
    have half : den ≤ 2 * (num % den) := by
      simp only [Bool.or_eq_true, decide_eq_true_eq, not_or, Nat.not_lt] at up
      exact up.1
    by_contra more
    obtain same : num / den = k := by omega
    rw [same] at parts
    omega

theorem roundHalfEven_le (positive : 0 < den) (bound : (num : ℚ) / den ≤ k) :
    roundHalfEven num den ≤ k :=
  roundHalfEven_le_of_half positive (by linarith)

theorem roundHalfEven_mono (positive : 0 < den) (positive' : 0 < den')
    (bound : (num : ℚ) / den ≤ num' / den') :
    roundHalfEven num den ≤ roundHalfEven num' den' := by
  have crossed : num * den' ≤ num' * den := by
    rw [div_le_div_iff₀ (by exact_mod_cast positive) (by exact_mod_cast positive')] at bound
    exact_mod_cast bound
  have parts := Nat.div_add_mod num den
  have parts' := Nat.div_add_mod num' den'
  have floors : num / den ≤ num' / den' := by
    refine (Nat.le_div_iff_mul_le positive').mpr (Nat.le_of_mul_le_mul_right ?_ positive)
    calc
      num / den * den' * den = num / den * den * den' := Nat.mul_right_comm _ _ _
      _ ≤ num * den' := Nat.mul_le_mul_right den' (Nat.div_mul_le_self num den)
      _ ≤ num' * den := crossed
  rcases Nat.lt_or_eq_of_le floors with less | same
  · calc
      roundHalfEven num den ≤ num / den + 1 := roundHalfEven_le_div_add_one num den
      _ ≤ num' / den' := less
      _ ≤ roundHalfEven num' den' := div_le_roundHalfEven num' den'
  · -- With the same floor the parts behind the point decide, and a tie goes the same way.
    rw [same] at parts
    have behind : num % den * den' ≤ num' % den' * den := by
      have wholes : den * (num' / den') * den' = den' * (num' / den') * den := by ring
      have left : num * den' = den * (num' / den') * den' + num % den * den' := by
        rw [← Nat.add_mul, parts]
      have right : num' * den = den' * (num' / den') * den + num' % den' * den := by
        rw [← Nat.add_mul, parts']
      omega
    have twice : 2 * (num % den) * den' ≤ den * (2 * (num' % den')) := by
      calc
        2 * (num % den) * den' = 2 * (num % den * den') := Nat.mul_assoc _ _ _
        _ ≤ 2 * (num' % den' * den) := Nat.mul_le_mul_left 2 behind
        _ = den * (2 * (num' % den')) := by ring
    rw [roundHalfEven, roundHalfEven, same]
    split
    · split <;> omega
    · next up =>
      rw [if_neg]
      simp only [Bool.or_eq_true, decide_eq_true_eq, Bool.and_eq_true, beq_iff_eq, not_or,
        Nat.not_lt, not_and] at up ⊢
      have half' : den' ≤ 2 * (num' % den') :=
        Nat.le_of_mul_le_mul_left ((Nat.mul_le_mul_right den' up.1).trans twice) positive
      refine ⟨half', fun tie' => up.2 (Nat.le_antisymm ?_ up.1)⟩
      rw [tie'] at twice
      exact Nat.le_of_mul_le_mul_right twice positive'

end Whole

/-! ## Powers of two -/

theorem two_zpow_pos (e : ℤ) : (0 : ℚ) < 2 ^ e := zpow_pos (by norm_num) e

theorem div_pos_of_ne_zero {num den : ℕ} (nonzero : num ≠ 0) (positive : 0 < den) :
    (0 : ℚ) < num / den :=
  div_pos (by exact_mod_cast Nat.pos_of_ne_zero nonzero) (by exact_mod_cast positive)

theorem overflow_lt : (overflow : ℚ) < 2 ^ (1024 : ℤ) := calc
  (overflow : ℚ) < 2 ^ (53 : ℤ) * 2 ^ (971 : ℤ) := by
    rw [overflow_eq]
    exact mul_lt_mul_of_pos_right (by norm_num) (two_zpow_pos _)
  _ = 2 ^ (1024 : ℤ) := (zpow_add₀ two_ne_zero 53 971).symm

theorem lt_zpow_log (q : ℚ) : q < 2 ^ (Int.log 2 q + 1) := by
  exact_mod_cast Int.lt_zpow_succ_log_self (by decide : 1 < 2) q

theorem unscale_pos {num den : ℕ} (positive : 0 < den) (e : ℤ) : 0 < (unscale num den e).2 := by
  rw [unscale]
  split
  · exact Nat.mul_pos positive (Nat.pow_pos (by decide))
  · exact positive

theorem unscale_div (num den : ℕ) (e : ℤ) :
    ((unscale num den e).1 : ℚ) / (unscale num den e).2 = num / den / 2 ^ e := by
  rw [unscale]
  split
  · next up =>
    obtain ⟨k, rfl⟩ := Int.eq_ofNat_of_zero_le up
    simp [div_div]
  · next down =>
    obtain ⟨k, same⟩ := Int.eq_ofNat_of_zero_le (show 0 ≤ -e by omega)
    obtain rfl : e = -k := by omega
    simp [div_eq_mul_inv]
    ring

theorem log_eq_of_bounds {q : ℚ} {l : ℤ} (lower : 2 ^ l ≤ q) (upper : q < 2 ^ (l + 1)) :
    Int.log 2 q = l := by
  have positive : 0 < q := (two_zpow_pos l).trans_le lower
  have least : l ≤ Int.log 2 q :=
    (Int.zpow_le_iff_le_log (by decide) positive).mp (by exact_mod_cast lower)
  have greatest : Int.log 2 q < l + 1 :=
    (Int.lt_zpow_iff_log_lt (by decide) positive).mp (by exact_mod_cast upper)
  omega

theorem log2Quotient_eq {num den : ℕ} (nonzero : num ≠ 0) (positive : 0 < den) :
    log2Quotient num den = Int.log 2 ((num : ℚ) / den) := by
  have denPos : (0 : ℚ) < den := by exact_mod_cast positive
  obtain ⟨e, same⟩ : ∃ e, (num.log2 : ℤ) - den.log2 = e := ⟨_, rfl⟩
  -- The logarithms of both numbers leave two places for the first bit of the quotient.
  have above : (num : ℚ) / den < 2 ^ (e + 1) := by
    have numAbove : (num : ℚ) < 2 ^ (num.log2 + 1) := by exact_mod_cast Nat.lt_log2_self
    have denBelow : (2 : ℚ) ^ den.log2 ≤ den := by
      exact_mod_cast Nat.log2_self_le (Nat.ne_of_gt positive)
    have parts : (2 : ℚ) ^ (num.log2 + 1) = 2 ^ (e + 1) * 2 ^ den.log2 := by
      rw [← zpow_natCast, ← zpow_natCast, ← zpow_add₀ (by norm_num)]
      congr 1
      omega
    rw [div_lt_iff₀ denPos]
    exact numAbove.trans_le
      (parts.trans_le (mul_le_mul_of_nonneg_left denBelow (two_zpow_pos _).le))
  have below : (2 : ℚ) ^ (e - 1) ≤ num / den := by
    have numBelow : (2 : ℚ) ^ num.log2 ≤ num := by exact_mod_cast Nat.log2_self_le nonzero
    have denAbove : (den : ℚ) ≤ 2 ^ (den.log2 + 1) := by
      exact_mod_cast Nat.lt_log2_self.le
    have parts : (2 : ℚ) ^ num.log2 = 2 ^ (e - 1) * 2 ^ (den.log2 + 1) := by
      rw [← zpow_natCast, ← zpow_natCast, ← zpow_add₀ (by norm_num)]
      congr 1
      omega
    rw [le_div_iff₀ denPos]
    exact (mul_le_mul_of_nonneg_left denAbove (two_zpow_pos _).le).trans
      (parts.symm.trans_le numBelow)
  have scaled := unscale_div num den e
  have scaledPos : (0 : ℚ) < (unscale num den e).2 := by exact_mod_cast unscale_pos positive e
  have fits : (unscale num den e).1 < (unscale num den e).2 ↔ (num : ℚ) / den < 2 ^ e := by
    rw [← Nat.cast_lt (α := ℚ), ← div_lt_one scaledPos, scaled, div_lt_one (two_zpow_pos e)]
  rw [log2Quotient]
  simp only [same]
  split
  · next less =>
    refine (log_eq_of_bounds below ?_).symm
    rw [Int.sub_add_cancel]
    exact fits.mp less
  · next more => exact (log_eq_of_bounds (not_lt.mp (mt fits.mpr more)) above).symm

/-! ## Quotients -/

section Quotient

variable {num den num' den' : ℕ}

/-- The exponent of the last bit that is left of a quotient. -/
def lastBit (num den : ℕ) : ℤ := max minExponent (Int.log 2 ((num : ℚ) / den) - 52)

/-- What is left of a quotient, in units of its last bit. -/
def units (num den : ℕ) : ℕ :=
  let parts := unscale num den (lastBit num den)
  roundHalfEven parts.1 parts.2

/-- What a quotient is rounded to if there is no greatest exponent. -/
def nearest (negative : Bool) (num den : ℕ) : Binary64 :=
  if units num den = 2 ^ 53 then ⟨negative, 2 ^ 52, lastBit num den + 1⟩
  else ⟨negative, units num den, lastBit num den⟩

theorem ofQuotient?_eq (negative : Bool) (nonzero : num ≠ 0) (positive : 0 < den) :
    ofQuotient? negative num den =
      if (nearest negative num den).exponent ≤ maxExponent then some (nearest negative num den)
      else none := by
  rw [ofQuotient?, if_neg nonzero, log2Quotient_eq nonzero positive]
  rfl

theorem units_le (positive : 0 < den) {k : ℕ}
    (bound : (num : ℚ) / den ≤ k * 2 ^ lastBit num den) : units num den ≤ k := by
  rw [units]
  refine roundHalfEven_le (unscale_pos positive _) ?_
  rwa [unscale_div, div_le_iff₀ (two_zpow_pos _)]

theorem le_units (positive : 0 < den) {k : ℕ}
    (bound : k * 2 ^ lastBit num den ≤ (num : ℚ) / den) : k ≤ units num den := by
  rw [units]
  refine le_roundHalfEven (unscale_pos positive _) ?_
  rwa [unscale_div, le_div_iff₀ (two_zpow_pos _)]

/-- A power of two that is not cut off is a whole number of units. -/
theorem exists_zpow_eq {l : ℤ} (kept : lastBit num den ≤ l) :
    ∃ k : ℕ, (2 : ℚ) ^ l = k * 2 ^ lastBit num den := by
  obtain ⟨j, same⟩ := Int.le.dest kept
  refine ⟨2 ^ j, ?_⟩
  rw [← same, zpow_add₀ (by norm_num), zpow_natCast, mul_comm]
  norm_cast

theorem units_le_zpow (positive : 0 < den) {l : ℤ} (kept : lastBit num den ≤ l)
    (bound : (num : ℚ) / den ≤ 2 ^ l) : units num den * 2 ^ lastBit num den ≤ (2 : ℚ) ^ l := by
  obtain ⟨k, same⟩ := exists_zpow_eq kept
  rw [same] at bound ⊢
  have few : (units num den : ℚ) ≤ k := by exact_mod_cast units_le positive bound
  exact mul_le_mul_of_nonneg_right few (two_zpow_pos _).le

theorem zpow_le_units (positive : 0 < den) {l : ℤ} (kept : lastBit num den ≤ l)
    (bound : 2 ^ l ≤ (num : ℚ) / den) : (2 : ℚ) ^ l ≤ units num den * 2 ^ lastBit num den := by
  obtain ⟨k, same⟩ := exists_zpow_eq kept
  rw [same] at bound ⊢
  have many : (k : ℚ) ≤ units num den := by exact_mod_cast le_units positive bound
  exact mul_le_mul_of_nonneg_right many (two_zpow_pos _).le

/-- A number and its last bit lie at most 53 bits apart. -/
theorem lt_lastBit (num den : ℕ) : (num : ℚ) / den < 2 ^ 53 * 2 ^ lastBit num den := by
  have exponents : Int.log 2 ((num : ℚ) / den) + 1 ≤ 53 + lastBit num den := by
    rw [lastBit]
    omega
  calc
    (num : ℚ) / den < 2 ^ (Int.log 2 ((num : ℚ) / den) + 1) := lt_zpow_log _
    _ ≤ 2 ^ (53 + lastBit num den) := zpow_le_zpow_right₀ (by norm_num) exponents
    _ = 2 ^ 53 * 2 ^ lastBit num den := by
      rw [zpow_add₀ (by norm_num)]
      rfl

theorem units_zero (positive : 0 < den) : units 0 den = 0 :=
  Nat.le_zero.mp (units_le positive (by simp))

theorem units_le_carry (positive : 0 < den) : units num den ≤ 2 ^ 53 :=
  units_le positive (by exact_mod_cast (lt_lastBit num den).le)

theorem magnitude_nearest (negative : Bool) :
    (nearest negative num den).magnitude = units num den * 2 ^ lastBit num den := by
  rw [nearest]
  split
  · next carried =>
    rw [magnitude, carried, zpow_add₀ (by norm_num)]
    norm_num
    ring
  · rfl

theorem fits_nearest (negative : Bool) (positive : 0 < den)
    (within : (nearest negative num den).exponent ≤ maxExponent) :
    (nearest negative num den).Fits := by
  have carry : units num den ≤ 2 ^ 53 := units_le_carry positive
  have least : minExponent ≤ lastBit num den := le_max_left _ _
  rw [nearest] at within ⊢
  split
  · next carried =>
    rw [if_pos carried] at within
    exact ⟨by norm_num, Int.le_add_one least, within⟩
  · next plain =>
    rw [if_neg plain] at within
    exact ⟨Nat.lt_of_le_of_ne carry plain, least, within⟩

variable {negative negative' : Bool} {x x' : Binary64}

/-- A number that a quotient is rounded to is in the format, and made of the quotient's units. -/
theorem ofQuotient?_eq_some (positive : 0 < den)
    (rounded : ofQuotient? negative num den = some x) :
    x.Fits ∧ x.magnitude = units num den * 2 ^ lastBit num den := by
  by_cases zero : num = 0
  · rw [ofQuotient?, if_pos zero] at rounded
    rw [← Option.some.inj rounded, magnitude_zero, zero, units_zero positive, Nat.cast_zero,
      zero_mul]
    exact ⟨fits_zero negative, rfl⟩
  · rw [ofQuotient?_eq negative zero positive] at rounded
    split at rounded
    · next within =>
      rw [← Option.some.inj rounded]
      exact ⟨fits_nearest negative positive within, magnitude_nearest negative⟩
    · cases rounded

/-- Rounding keeps the order. -/
theorem magnitude_mono (positive : 0 < den) (positive' : 0 < den')
    (order : (num : ℚ) / den ≤ num' / den') (rounded : ofQuotient? negative num den = some x)
    (rounded' : ofQuotient? negative' num' den' = some x') : x.magnitude ≤ x'.magnitude := by
  rw [(ofQuotient?_eq_some positive rounded).2, (ofQuotient?_eq_some positive' rounded').2]
  by_cases zero : num = 0
  · rw [zero, units_zero positive, Nat.cast_zero, zero_mul]
    exact mul_nonneg (Nat.cast_nonneg _) (two_zpow_pos _).le
  have some : (0 : ℚ) < num / den := div_pos_of_ne_zero zero positive
  have logs : Int.log 2 ((num : ℚ) / den) ≤ Int.log 2 ((num' : ℚ) / den') :=
    Int.log_mono_right some order
  have bits : lastBit num den ≤ lastBit num' den' := by
    rw [lastBit, lastBit]
    omega
  rcases bits.lt_or_eq with less | same
  · -- A power of two lies between the two quotients, and neither is rounded over it.
    have leading : lastBit num' den' = Int.log 2 ((num' : ℚ) / den') - 52 := by
      rw [lastBit, lastBit] at less
      rw [lastBit]
      omega
    have apart : Int.log 2 ((num : ℚ) / den) + 1 ≤ Int.log 2 ((num' : ℚ) / den') := by
      rw [leading, lastBit] at less
      omega
    have below : (num : ℚ) / den ≤ 2 ^ Int.log 2 ((num' : ℚ) / den') :=
      (lt_zpow_log _).le.trans (zpow_le_zpow_right₀ (by norm_num) apart)
    have above : 2 ^ Int.log 2 ((num' : ℚ) / den') ≤ (num' : ℚ) / den' := by
      exact_mod_cast Int.zpow_log_le_self (by decide : 1 < 2) (some.trans_le order)
    exact (units_le_zpow positive (by omega) below).trans
      (zpow_le_units positive' (by omega) above)
  · have fewer : units num den ≤ units num' den' := by
      rw [units, units]
      refine roundHalfEven_mono (unscale_pos positive _) (unscale_pos positive' _) ?_
      rw [unscale_div, unscale_div, same]
      exact div_le_div_of_nonneg_right order (two_zpow_pos _).le
    rw [same]
    exact mul_le_mul_of_nonneg_right (by exact_mod_cast fewer) (two_zpow_pos _).le

/-- All that is nearer to the greatest number of the format than to what lies beyond it is rounded
to a number of the format. -/
theorem isSome_ofQuotient? (negative : Bool) (positive : 0 < den)
    (bound : (num : ℚ) / den < overflow) : (ofQuotient? negative num den).isSome := by
  by_cases zero : num = 0
  · rw [ofQuotient?, if_pos zero]
    rfl
  have some : (0 : ℚ) < num / den := div_pos_of_ne_zero zero positive
  rw [ofQuotient?_eq negative zero positive, if_pos]
  · rfl
  have leading : Int.log 2 ((num : ℚ) / den) < 1024 := by
    refine (Int.lt_zpow_iff_log_lt (by decide : 1 < 2) some).mp (bound.trans ?_)
    exact_mod_cast overflow_lt
  have least : lastBit num den ≤ 971 := by
    rw [lastBit, minExponent]
    omega
  rw [nearest]
  split
  · next carried =>
    -- With the greatest last bit there is no carry: less than a half is left above all ones.
    have notGreatest : lastBit num den ≠ 971 := by
      intro greatest
      have ones : units num den ≤ 2 ^ 53 - 1 := by
        rw [units]
        refine roundHalfEven_le_of_half (unscale_pos positive _) ?_
        rw [unscale_div, greatest, div_lt_iff₀ (two_zpow_pos _)]
        exact overflow_eq ▸ bound
      omega
    have next : lastBit num den + 1 ≤ 971 := by omega
    exact next
  · exact least

end Quotient

/-! ## Numbers of the format -/

section Arithmetic

variable {x y z : Binary64}

theorem Fits.magnitude_lt (fits : x.Fits) : x.magnitude < overflow := by
  have ones : (x.significand : ℚ) ≤ (2 ^ 53 - 1 : ℕ) :=
    Nat.cast_le.mpr (Nat.le_sub_one_of_lt fits.significand)
  have power : (2 : ℚ) ^ x.exponent ≤ 2 ^ (971 : ℤ) :=
    zpow_le_zpow_right₀ (by norm_num) fits.greatest
  calc
    x.magnitude ≤ (2 ^ 53 - 1 : ℕ) * 2 ^ (971 : ℤ) :=
      mul_le_mul ones power (two_zpow_pos _).le (Nat.cast_nonneg _)
    _ < ((2 ^ 53 - 1 : ℕ) + 1 / 2) * 2 ^ (971 : ℤ) :=
      mul_lt_mul_of_pos_right (lt_add_of_pos_right _ (by norm_num)) (two_zpow_pos _)
    _ = overflow := overflow_eq.symm

theorem quotient_pos (x : Binary64) : 0 < x.quotient.2 := unscale_pos Nat.one_pos _

theorem quotient_div (x : Binary64) : (x.quotient.1 : ℚ) / x.quotient.2 = x.magnitude := by
  rw [quotient, unscale_div, Nat.cast_one, div_one, zpow_neg, div_inv_eq_mul]
  rfl

theorem quotient_ne_zero (nonzero : x.magnitude ≠ 0) : x.quotient.1 ≠ 0 := by
  intro zero
  rw [← quotient_div, zero, Nat.cast_zero, zero_div] at nonzero
  exact nonzero rfl

theorem mul?_div (x y : Binary64) :
    ((x.quotient.1 * y.quotient.1 : ℕ) : ℚ) / (x.quotient.2 * y.quotient.2 : ℕ) =
      x.magnitude * y.magnitude := by
  rw [Nat.cast_mul, Nat.cast_mul, mul_div_mul_comm, quotient_div, quotient_div]

theorem div?_div (x y : Binary64) :
    ((x.quotient.1 * y.quotient.2 : ℕ) : ℚ) / (x.quotient.2 * y.quotient.1 : ℕ) =
      x.magnitude / y.magnitude := by
  rw [Nat.cast_mul, Nat.cast_mul, mul_div_mul_comm, quotient_div, ← inv_div, quotient_div,
    ← div_eq_mul_inv]

theorem fits_mul? (product : x.mul? y = some z) : z.Fits :=
  (ofQuotient?_eq_some (Nat.mul_pos x.quotient_pos y.quotient_pos) product).1

theorem isSome_mul? (bound : x.magnitude * y.magnitude < overflow) : (x.mul? y).isSome :=
  isSome_ofQuotient? x.negative (Nat.mul_pos x.quotient_pos y.quotient_pos)
    ((mul?_div x y).trans_lt bound)

theorem fits_div? (nonzero : y.magnitude ≠ 0) (ratio : x.div? y = some z) : z.Fits :=
  (ofQuotient?_eq_some
    (Nat.mul_pos x.quotient_pos (Nat.pos_of_ne_zero (quotient_ne_zero nonzero))) ratio).1

theorem isSome_div? (fits : x.Fits) (whole : 1 ≤ y.magnitude) : (x.div? y).isSome := by
  have nonzero : y.magnitude ≠ 0 := (zero_lt_one.trans_le whole).ne'
  have less : x.magnitude / y.magnitude < overflow :=
    (div_le_self x.magnitude_nonneg whole).trans_lt fits.magnitude_lt
  exact isSome_ofQuotient? x.negative
    (Nat.mul_pos x.quotient_pos (Nat.pos_of_ne_zero (quotient_ne_zero nonzero)))
    ((div?_div x y).trans_lt less)

theorem fits_ofNat? {negative : Bool} {n : ℕ} (rounded : ofNat? negative n = some x) : x.Fits :=
  (ofQuotient?_eq_some Nat.one_pos rounded).1

/-- What a whole number is rounded to if its first binary digit stands at the place `l`. -/
def nearestWhole (l n : ℕ) : ℕ := roundHalfEven n (2 ^ (l - 52)) * 2 ^ (l - 52)

theorem magnitude_ofNat? {negative : Bool} {l n : ℕ} (lower : 2 ^ l ≤ n) (upper : n < 2 ^ (l + 1))
    (rounded : ofNat? negative n = some x) : x.magnitude = nearestWhole l n := by
  have log : Int.log 2 ((n : ℚ) / (1 : ℕ)) = l := by
    rw [Nat.cast_one, div_one]
    exact log_eq_of_bounds (by exact_mod_cast lower) (by exact_mod_cast upper)
  have last : lastBit n 1 = l - 52 := by
    rw [lastBit, log, minExponent]
    omega
  rw [(ofQuotient?_eq_some Nat.one_pos rounded).2, units, last, nearestWhole, unscale]
  split
  · next up =>
    obtain ⟨k, rfl⟩ := Nat.exists_eq_add_of_le (show 52 ≤ l by omega)
    have places : ((52 + k : ℕ) : ℤ) - 52 = k := by omega
    rw [places, Nat.add_sub_cancel_left]
    simp
  · next down =>
    -- Nothing is cut off of a number with no more digits than a significand.
    obtain ⟨k, same⟩ := Nat.exists_eq_add_of_le (show l ≤ 52 by omega)
    have places : (l : ℤ) - 52 = -k := by omega
    rw [places, Nat.sub_eq_zero_of_le (by omega)]
    simp [roundHalfEven_one]

theorem isSome_ofNat? (negative : Bool) {n : ℕ} (bound : n < overflow) :
    (ofNat? negative n).isSome :=
  isSome_ofQuotient? negative Nat.one_pos (by
    rw [Nat.cast_one, div_one]
    exact_mod_cast bound)

end Arithmetic

end SyncPods.Binary64
