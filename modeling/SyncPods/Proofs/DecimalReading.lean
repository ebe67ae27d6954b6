import SyncPods.Json.Number
import SyncPods.Proofs.Rounding

/-!
# Reading decimals

The number of a decimal text is one of the format, and there is one unless the decimal is too great:
the errors of the roundings on the way never lead out of the format from below the midpoint of its
two greatest numbers.
-/

namespace SyncPods.Json

open Binary64

/-- Whether a number is one that a text can be read as. -/
def Number.Fits : Number → Prop
  | .integer n => -2 ^ 63 ≤ n ∧ n < 2 ^ 64
  | .float x => x.Fits

/-! ## Powers of ten -/

theorem pow_lt_overflow {k : ℕ} (small : k ≤ maxPower) : 10 ^ k < overflow := by
  have top : 10 ^ maxPower < overflow := by decide +kernel
  exact (Nat.pow_le_pow_right (by decide) small).trans_lt top

theorem powerOfTen_eq {k : ℕ} (small : k ≤ maxPower) :
    ofNat? false (10 ^ k) = some (powerOfTen k) := by
  obtain ⟨p, rounded⟩ := Option.isSome_iff_exists.mp (isSome_ofNat? false (pow_lt_overflow small))
  rw [powerOfTen, Nat.pow_eq, rounded]
  rfl

theorem magnitude_powerOfTen_zero : (powerOfTen 0).magnitude = 1 := by
  have one : powerOfTen 0 = ⟨false, 2 ^ 52, -52⟩ := rfl
  norm_num [one, magnitude]

theorem one_le_powerOfTen {k : ℕ} (small : k ≤ maxPower) : 1 ≤ (powerOfTen k).magnitude := by
  rw [← magnitude_powerOfTen_zero]
  refine magnitude_mono Nat.one_pos Nat.one_pos ?_ (powerOfTen_eq (Nat.zero_le _))
    (powerOfTen_eq small)
  have positive : 10 ^ 0 ≤ 10 ^ k := Nat.pow_pos (by decide)
  exact div_le_div_of_nonneg_right (by exact_mod_cast positive) (by norm_num)

theorem powerOfTen_ne_zero {k : ℕ} (small : k ≤ maxPower) : (powerOfTen k).magnitude ≠ 0 :=
  (zero_lt_one.trans_le (one_le_powerOfTen small)).ne'

/-! ## Scaling -/

section Scale

variable {divisions : ℕ} {x y : Binary64} {e : ℤ}

theorem fits_scale (fits : x.Fits) (scaled : scale divisions x e = some y) : y.Fits := by
  fun_induction scale divisions x e with
  | case1 => exact fits_mul? scaled
  | case2 _ _ _ small => exact fits_div? (powerOfTen_ne_zero small) scaled
  | case3 => exact Option.some.inj scaled ▸ fits
  | case4 => cases scaled
  | case5 => exact Option.some.inj scaled ▸ fits_zero _
  | case6 x e far _ _ divisions ih =>
      obtain ⟨quotient, divided, rest⟩ := Option.bind_eq_some_iff.mp scaled
      exact ih quotient (fits_div? (powerOfTen_ne_zero (Nat.le_refl _)) divided) rest

/-- A number of the format only gets smaller with a negative exponent. -/
theorem isSome_scale_of_nonpos (fits : x.Fits) (down : e ≤ 0) :
    (scale divisions x e).isSome := by
  fun_induction scale divisions x e with
  | case1 divisions x e small up =>
      obtain rfl : e = 0 := Int.le_antisymm down up
      refine isSome_mul? ?_
      rw [Int.natAbs_zero, magnitude_powerOfTen_zero, mul_one]
      exact fits.magnitude_lt
  | case2 divisions x e small below => exact isSome_div? fits (one_le_powerOfTen small)
  | case3 => rfl
  | case4 divisions x e far nonzero up =>
      have zero : e = 0 := Int.le_antisymm down up
      exact absurd (zero ▸ Nat.zero_le _) far
  | case5 => rfl
  | case6 x e far _ below divisions ih =>
      have unit : 1 ≤ (powerOfTen maxPower).magnitude := one_le_powerOfTen (Nat.le_refl _)
      obtain ⟨quotient, divided⟩ := Option.isSome_iff_exists.mp (isSome_div? fits unit)
      rw [divided]
      exact ih quotient (fits_div? (powerOfTen_ne_zero (Nat.le_refl _)) divided) (by omega)

end Scale

/-- The midpoint of the two greatest numbers of the format. -/
def lastMidpoint : ℕ := (2 ^ 54 - 3) * 2 ^ 970

theorem lastMidpoint_lt : lastMidpoint < 10 ^ (maxPower + 1) := by decide +kernel

/-- The greatest number that digits are gathered into which, times a power of ten, is not above the
midpoint. -/
def lastGathered (k : ℕ) : ℕ := min (lastMidpoint / 10 ^ k) maxSignificand

/-- The place of the first binary digit of a power of ten. -/
def firstOfPower (k : ℕ) : ℕ := 217706 * k / 2 ^ 16

/-- The place of the first binary digit of what is gathered at most. -/
def firstOfGathered (k : ℕ) : ℕ := min 63 (1023 - firstOfPower k)

/-- Whether these are the places, and the two numbers, once they are rounded, have a product that is
rounded to one of the format. -/
def staysWithin (k : ℕ) : Bool :=
  2 ^ firstOfPower k ≤ 10 ^ k && 10 ^ k < 2 ^ (firstOfPower k + 1) &&
    (2 ^ firstOfGathered k ≤ lastGathered k && lastGathered k < 2 ^ (firstOfGathered k + 1)) &&
    nearestWhole (firstOfGathered k) (lastGathered k) * nearestWhole (firstOfPower k) (10 ^ k) <
      overflow

theorem staysWithin_of_small : ∀ k ≤ maxPower, staysWithin k = true := by
  have all : (List.range (maxPower + 1)).all staysWithin = true := by decide +kernel
  intro k small
  exact List.all_eq_true.mp all k (List.mem_range.mpr (Nat.lt_succ_of_le small))

theorem maxSignificand_lt_overflow : maxSignificand < overflow := by
  have digits : maxSignificand < 10 ^ 20 := by decide
  exact digits.trans (pow_lt_overflow (by decide))

/-- The product of the two numbers, once they are rounded, is rounded to one of the format. -/
theorem lastGathered_mul_lt {k : ℕ} (small : k ≤ maxPower) {x : Binary64}
    (rounded : ofNat? false (lastGathered k) = some x) :
    x.magnitude * (powerOfTen k).magnitude < overflow := by
  have safe := staysWithin_of_small k small
  simp only [staysWithin, Bool.and_eq_true, decide_eq_true_eq] at safe
  obtain ⟨⟨⟨powerLower, powerUpper⟩, lower, upper⟩, product⟩ := safe
  rw [magnitude_ofNat? lower upper rounded,
    magnitude_ofNat? powerLower powerUpper (powerOfTen_eq small)]
  exact_mod_cast product

/-! ## Decimals -/

section Scaled

variable {negative : Bool} {m : ℕ} {e : ℤ}

theorem fits_scaled {n : Number} (found : scaled negative m e = some n) : n.Fits := by
  obtain ⟨x, rounded, rest⟩ := Option.bind_eq_some_iff.mp found
  obtain ⟨y, scales, same⟩ := Option.bind_eq_some_iff.mp rest
  obtain rfl := Option.some.inj same
  exact fits_scale (fits_ofNat? rounded) scales

theorem isSome_scale_of_le {x : Binary64} {k : ℕ} (small : m ≤ maxSignificand)
    (bound : m * 10 ^ k ≤ lastMidpoint) (rounded : ofNat? negative m = some x) :
    (scale 3 x k).isSome := by
  by_cases within : k ≤ maxPower
  · obtain ⟨last, roundedLast⟩ := Option.isSome_iff_exists.mp (isSome_ofNat? false
      ((Nat.min_le_right _ _ : lastGathered k ≤ maxSignificand).trans_lt maxSignificand_lt_overflow))
    have gathered : m ≤ lastGathered k :=
      Nat.le_min.mpr ⟨(Nat.le_div_iff_mul_le (Nat.pow_pos (by decide))).mpr bound, small⟩
    have order : x.magnitude ≤ last.magnitude := by
      refine magnitude_mono Nat.one_pos Nat.one_pos ?_ rounded roundedLast
      exact div_le_div_of_nonneg_right (by exact_mod_cast gathered) (by norm_num)
    have product := lastGathered_mul_lt within roundedLast
    have up : (0 : ℤ) ≤ k := Int.natCast_nonneg k
    rw [scale, Int.natAbs_natCast, if_pos within, if_pos up]
    exact isSome_mul? ((mul_le_mul_of_nonneg_right order (magnitude_nonneg _)).trans_lt product)
  · -- A power of ten this great leaves room for zero only.
    have none : m = 0 := by
      by_contra some
      have power : 10 ^ (maxPower + 1) ≤ m * 10 ^ k := calc
        10 ^ (maxPower + 1) ≤ 10 ^ k := Nat.pow_le_pow_right (by decide) (Nat.lt_of_not_le within)
        _ ≤ m * 10 ^ k := Nat.le_mul_of_pos_left _ (Nat.pos_of_ne_zero some)
      exact absurd (power.trans bound) (Nat.not_le.mpr lastMidpoint_lt)
    obtain rfl : zero negative = x := by
      rw [none] at rounded
      exact Option.some.inj rounded
    rw [scale, Int.natAbs_natCast, if_neg within]
    rfl

/-- A decimal that is not above the midpoint of the two greatest numbers is read as a number. -/
theorem isSome_scaled (negative : Bool) (small : m ≤ maxSignificand)
    (bound : 0 < e → (m : ℚ) * 10 ^ e ≤ lastMidpoint) : (scaled negative m e).isSome := by
  obtain ⟨x, rounded⟩ := Option.isSome_iff_exists.mp
    (isSome_ofNat? negative (small.trans_lt maxSignificand_lt_overflow))
  have scales : (scale 3 x e).isSome := by
    rcases le_or_gt e 0 with down | up
    · exact isSome_scale_of_nonpos (fits_ofNat? rounded) down
    · obtain ⟨k, rfl⟩ := Int.eq_ofNat_of_zero_le up.le
      have within := bound up
      rw [zpow_natCast] at within
      exact isSome_scale_of_le small (by exact_mod_cast within) rounded
  obtain ⟨y, scaled⟩ := Option.isSome_iff_exists.mp scales
  rw [Json.scaled, rounded, Option.bind_eq_bind, Option.bind_some, scaled]
  rfl

end Scaled

/-! ## Numbers of texts -/

theorem mul_pow_le_ofDigitChars (cs : List Char) (n : ℕ) :
    n * 10 ^ cs.length ≤ Nat.ofDigitChars 10 cs n := by
  induction cs generalizing n with
  | nil => exact Nat.le_of_eq (Nat.mul_one n)
  | cons d ds ih =>
      rw [Nat.ofDigitChars_cons, List.length_cons, Nat.pow_succ]
      calc
        n * (10 ^ ds.length * 10) = 10 * n * 10 ^ ds.length := by ring
        _ ≤ (10 * n + (d.toNat - '0'.toNat)) * 10 ^ ds.length :=
          Nat.mul_le_mul_right _ (Nat.le_add_right _ _)
        _ ≤ _ := ih _

/-- What is gathered of some digits stays within the bound, and with a zero for each digit that is
left it is not above them. -/
theorem gather_spec {bound n m : ℕ} {cs left : List Char} (start : n ≤ bound)
    (gathered : gather bound n cs = (m, left)) :
    m ≤ bound ∧ left.length ≤ cs.length ∧
      m * 10 ^ left.length ≤ Nat.ofDigitChars 10 cs n := by
  induction cs generalizing n with
  | nil =>
      obtain ⟨rfl, rfl⟩ := Prod.mk.inj gathered
      exact ⟨start, Nat.le_refl _, mul_pow_le_ofDigitChars [] n⟩
  | cons d ds ih =>
      rw [gather] at gathered
      split at gathered
      · obtain ⟨rfl, rfl⟩ := Prod.mk.inj gathered
        exact ⟨start, Nat.le_refl _, mul_pow_le_ofDigitChars (d :: ds) n⟩
      · next within =>
        obtain ⟨small, fewer, below⟩ := ih (Nat.not_lt.mp within) gathered
        rw [Nat.mul_comm n 10] at below
        exact ⟨small, fewer.trans (Nat.le_succ _), below⟩

theorem fits_ofWhole {negative : Bool} {n : ℕ} {number : Number} (small : n ≤ maxSignificand)
    (found : ofWhole negative n = some number) : number.Fits := by
  have most : n < 2 ^ 64 := by
    rw [maxSignificand, Nat.pow_eq] at small
    omega
  rw [ofWhole] at found
  split at found
  · split at found
    · obtain ⟨x, rounded, rfl⟩ := Option.map_eq_some_iff.mp found
      exact fits_ofNat? rounded
    · next within =>
      obtain rfl := Option.some.inj found
      rw [Nat.pow_eq] at within
      exact ⟨by omega, by omega⟩
  · obtain rfl := Option.some.inj found
    exact ⟨by omega, by omega⟩

/-- What a text is read as is in the format. -/
theorem fits_value? {t : NumberText} {number : Number} (found : t.value? = some number) :
    number.Fits := by
  unfold NumberText.value? at found
  split at found
  next n dropped gathered =>
  split at found
  · exact fits_ofWhole (gather_spec (Nat.zero_le _) gathered).1 found
  · split at found
    next m unread _ =>
    split at found
    · exact fits_scaled found
    · split at found
      · exact fits_scaled found
      · split at found
        · exact Option.some.inj found ▸ fits_zero _
        · cases found

end SyncPods.Json
