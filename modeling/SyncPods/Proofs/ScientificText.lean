import SyncPods.Proofs.CompactText
import SyncPods.Proofs.DecimalReading

/-!
# Numbers in double precision are written as readable numbers

The shortest decimal of a number is no further above it than half of its last bit. So its text,
which is a number of the grammar, is read as a number of the format, though not always as the same
one.
-/

namespace SyncPods

/-! ## Shortest decimals -/

def Decimal.value (d : Decimal) : ℚ := d.digits * 10 ^ d.exponent

namespace Binary64

/-- The end of the numbers that are rounded to a number, with its last bit as the unit. -/
def upperEnd (x : Binary64) : ℚ := (x.significand + 1 / 2) * 2 ^ x.exponent

theorem unscale_snd (num num' den : ℕ) (e : ℤ) :
    (unscale num den e).2 = (unscale num' den e).2 := by
  rw [unscale, unscale]
  split <;> rfl

theorem unscale_fst_pos {num : ℕ} (positive : 0 < num) (den : ℕ) (e : ℤ) :
    0 < (unscale num den e).1 := by
  rw [unscale]
  split
  · exact positive
  · exact Nat.mul_pos positive (Nat.pow_pos (by decide))

theorem roundingInterval_high (x : Binary64) :
    (x.roundingInterval.high : ℚ) / x.roundingInterval.den = x.upperEnd := by
  have quotient := unscale_div (4 * x.significand + 2) 4 (-x.exponent)
  rw [unscale_snd _ (4 * x.significand)] at quotient
  rw [roundingInterval, upperEnd]
  dsimp only
  rw [quotient, zpow_neg, div_inv_eq_mul]
  push_cast
  ring

theorem roundingInterval_low {x : Binary64} (nonzero : x.significand ≠ 0) :
    0 < x.roundingInterval.low := by
  rw [roundingInterval]
  dsimp only
  refine unscale_fst_pos ?_ _ _
  split <;> omega

theorem roundingInterval_den (x : Binary64) : 0 < x.roundingInterval.den :=
  unscale_pos (by decide) _

theorem ten_zpow_mul (e : ℤ) : (10 : ℚ) ^ e * 10 ^ (-e).toNat = 10 ^ e.toNat := by
  rcases Int.le_total 0 e with up | down
  · obtain ⟨k, rfl⟩ := Int.eq_ofNat_of_zero_le up
    simp
  · obtain ⟨k, same⟩ := Int.eq_ofNat_of_zero_le (show 0 ≤ -e by omega)
    obtain rfl : e = -k := by omega
    simp

namespace RoundingInterval

variable {i : RoundingInterval} {n : ℕ} {e : ℤ}

/-- A decimal in an interval of positive numbers is positive and not above its end. -/
theorem bounds_of_holds (low : 0 < i.low) (den : 0 < i.den) (holds : i.holds n e = true) :
    0 < n ∧ (Decimal.mk n e).value ≤ i.high / i.den := by
  have bounds : i.low * 10 ^ (-e).toNat ≤ n * i.den * 10 ^ e.toNat ∧
      n * i.den * 10 ^ e.toNat ≤ i.high * 10 ^ (-e).toNat := by
    simp only [RoundingInterval.holds, Nat.pow_eq] at holds
    split at holds
    · simpa using holds
    · have strict := (Bool.and_eq_true _ _).mp holds
      simp only [decide_eq_true_eq] at strict
      exact ⟨strict.1.le, strict.2.le⟩
  constructor
  · have above : 0 < n * i.den * 10 ^ e.toNat :=
      (Nat.mul_pos low (Nat.pow_pos (by decide))).trans_le bounds.1
    exact Nat.pos_of_mul_pos_right (Nat.pos_of_mul_pos_right above)
  · rw [Decimal.value, le_div_iff₀ (by exact_mod_cast den)]
    have power : (0 : ℚ) < 10 ^ (-e).toNat := pow_pos (by norm_num) _
    refine le_of_mul_le_mul_right ?_ power
    calc
      (n : ℚ) * 10 ^ e * i.den * 10 ^ (-e).toNat = n * i.den * (10 ^ e * 10 ^ (-e).toNat) := by
        ring
      _ = n * i.den * 10 ^ e.toNat := by rw [ten_zpow_mul]
      _ ≤ i.high * 10 ^ (-e).toNat := by exact_mod_cast bounds.2

theorem holds_of_onGrid? (found : i.onGrid? e = some n) : i.holds n e = true := by
  rw [onGrid?] at found
  split at found
  · next floor ceiling =>
    obtain rfl := Option.some.inj found
    rw [roundHalfEven]
    split
    · exact floor
    · exact ceiling
  · next floor _ => exact Option.some.inj found ▸ floor
  · next _ ceiling => exact Option.some.inj found ▸ ceiling
  · cases found

end RoundingInterval

theorem stripZeros_spec (fuel : ℕ) {d : Decimal} (positive : 0 < d.digits) :
    0 < (stripZeros fuel d).digits ∧ (stripZeros fuel d).value = d.value := by
  induction fuel generalizing d with
  | zero => exact ⟨positive, rfl⟩
  | succ fuel ih =>
      rw [stripZeros]
      split
      · next trailing =>
        obtain ⟨tenths, same⟩ := Nat.dvd_of_mod_eq_zero trailing.1
        have less : d.digits / 10 = tenths := by omega
        obtain ⟨stillPositive, value⟩ := ih (d := ⟨d.digits / 10, d.exponent + 1⟩) (by
          show 0 < d.digits / 10
          omega)
        refine ⟨stillPositive, value.trans ?_⟩
        rw [Decimal.value, Decimal.value, less, same, zpow_add₀ (by norm_num)]
        push_cast
        ring
      · exact ⟨positive, rfl⟩

/-- The shortest decimal of a number is not above the end of what is rounded to the number. Only the
answer that stands for no decimal at all has no digits. -/
theorem shortest_spec (x : Binary64) :
    x.shortest = ⟨0, 0⟩ ∨ 0 < x.shortest.digits ∧ x.shortest.value ≤ x.upperEnd := by
  rw [shortest]
  split
  · exact .inl rfl
  · next nonzero =>
    dsimp only
    split
    · next d found =>
      right
      obtain ⟨e, _, onGrid⟩ := List.exists_of_findSome?_eq_some found
      obtain ⟨n, held, rfl⟩ := Option.map_eq_some_iff.mp onGrid
      obtain ⟨positive, bound⟩ := RoundingInterval.bounds_of_holds (roundingInterval_low nonzero)
        (roundingInterval_den x) (RoundingInterval.holds_of_onGrid? held)
      obtain ⟨stripped, value⟩ := stripZeros_spec 20 (d := ⟨n, e⟩) positive
      exact ⟨stripped, value.trans_le (bound.trans_eq (roundingInterval_high x))⟩
    · exact .inl rfl

/-- Below the greatest number, what is rounded to a number ends at the last midpoint at most. -/
theorem upperEnd_le {x : Binary64} (fits : x.Fits)
    (other : ¬ (x.significand = 2 ^ 53 - 1 ∧ x.exponent = 971)) :
    x.upperEnd ≤ Json.lastMidpoint := by
  have midpoint : (Json.lastMidpoint : ℚ) = (2 ^ 54 - 3) * 2 ^ (970 : ℤ) := by
    have exponent : (970 : ℤ) = (970 : ℕ) := rfl
    rw [exponent, zpow_natCast, Json.lastMidpoint, Nat.cast_mul, Nat.cast_pow]
    congr 1
    norm_num
  have bits : (x.significand : ℚ) + 1 ≤ 2 ^ 53 := by exact_mod_cast fits.significand
  rw [midpoint, upperEnd]
  rcases fits.greatest.lt_or_eq with less | last
  · have power : (2 : ℚ) ^ x.exponent ≤ 2 ^ (970 : ℤ) :=
      zpow_le_zpow_right₀ (by norm_num) (Int.le_of_lt_add_one less)
    exact mul_le_mul (by linarith) power (two_zpow_pos _).le (by norm_num)
  · have notOnes : x.significand + 2 ≤ 2 ^ 53 := by
      have := fits.significand
      have : x.significand ≠ 2 ^ 53 - 1 := fun ones => other ⟨ones, last⟩
      omega
    have bits : (x.significand : ℚ) + 2 ≤ 2 ^ 53 := by exact_mod_cast notOnes
    have next : maxExponent = 1 + 970 := rfl
    rw [last, next, zpow_add₀ (by norm_num), ← mul_assoc]
    refine mul_le_mul_of_nonneg_right ?_ (two_zpow_pos _).le
    norm_num
    linarith

end Binary64

namespace Json

open Binary64

/-! ## The grammar -/

theorem spelled_pointed (negative : Bool) {whole fraction : List Char} (areWhole : AreWhole whole)
    (areDigits : AreDigits fraction) :
    NumberText.Spelled ⟨negative, whole, fraction, none⟩
      ((if negative then ['-'] else []) ++ whole ++ '.' :: fraction) := by
  cases negative with
  | false => simpa using NumberText.Spelled.positive areWhole (.present areDigits) .absent
  | true => simpa using NumberText.Spelled.negative areWhole (.present areDigits) .absent

theorem spelled_exponential (negative down : Bool) {d : Char} {digits exponent : List Char}
    (areDigits : ∀ c ∈ d :: digits, c.isDigit = true) (exponentDigits : AreDigits exponent) :
    NumberText.Spelled ⟨negative, [d], digits, some (down, exponent)⟩
      ((if negative then ['-'] else []) ++ d :: (if digits.isEmpty then [] else '.' :: digits) ++
        'e' :: (if down then '-' else '+') :: exponent) := by
  have ⟨first, others⟩ := List.forall_mem_cons.mp areDigits
  have whole : AreWhole [d] := ⟨⟨List.cons_ne_nil _ _, by simpa using first⟩, by simp⟩
  have fraction : FractionSpelled digits (if digits.isEmpty then [] else '.' :: digits) := by
    cases digits with
    | nil => exact .absent
    | cons c cs => exact .present ⟨List.cons_ne_nil _ _, others⟩
  have power : ExponentSpelled (some (down, exponent))
      ('e' :: (if down then '-' else '+') :: exponent) := by
    cases down with
    | false => exact .positive (.inl rfl) exponentDigits
    | true => exact .negative (.inl rfl) exponentDigits
  cases negative with
  | false => simpa using NumberText.Spelled.positive whole fraction power
  | true => simpa using NumberText.Spelled.negative whole fraction power

/-- The text of a number in double precision, taken apart. -/
def scientificText (x : Binary64) : NumberText :=
  let (digits, point) := digitsAndPoint x.shortest
  if x.significand = 0 then ⟨x.negative, ['0'], ['0'], none⟩
  else if -4 ≤ point ∧ point ≤ 16 then
    let (whole, fraction) := positional digits point
    ⟨x.negative, whole.toList, if fraction.isEmpty then ['0'] else fraction.toList, none⟩
  else
    ⟨x.negative, digits.take 1, digits.drop 1,
      some (point - 1 < 0, Nat.toDigits 10 (point - 1).natAbs)⟩

/-- The digits of a shortest decimal begin with zero only for the number zero. -/
theorem leading_digit (x : Binary64) :
    let (digits, point) := digitsAndPoint x.shortest
    AreDigits digits ∧ (digits = ['0'] ∧ point = 1 ∨ digits.head? ≠ some '0') := by
  refine ⟨(areWhole_toDigits _).1, ?_⟩
  rcases shortest_spec x with none | ⟨positive, -⟩
  · left
    simp [none]
  · exact .inr (head?_toDigits_ne_zero positive)

theorem positional_spec {digits : List Char} {point : ℤ} (areDigits : AreDigits digits)
    (leading : digits = ['0'] ∧ point = 1 ∨ digits.head? ≠ some '0') :
    AreWhole (positional digits point).1.toList ∧
      ∀ c ∈ (positional digits point).2.toList, c.isDigit = true := by
  have zeros (n : ℕ) : ∀ c ∈ List.replicate n '0', c.isDigit = true := by
    intro c listed
    rw [List.eq_of_mem_replicate listed]
    rfl
  rw [positional]
  split
  · dsimp only
    refine ⟨areWhole_toDigits 0, ?_⟩
    rw [String.toList_ofList]
    exact List.forall_mem_append.mpr ⟨zeros _, areDigits.2⟩
  · next positive =>
    obtain ⟨n, same⟩ : ∃ n : ℕ, point.toNat = n + 1 :=
      Nat.exists_eq_add_one_of_ne_zero (by omega)
    obtain ⟨d, rest, rfl⟩ := List.exists_cons_of_ne_nil areDigits.1
    have others := (List.forall_mem_cons.mp areDigits.2).2
    dsimp only
    rw [String.toList_ofList, String.toList_ofList, same]
    refine ⟨⟨⟨by simp, List.forall_mem_append.mpr ⟨fun c listed => ?_, zeros _⟩⟩, ?_⟩, ?_⟩
    · exact areDigits.2 c (List.mem_of_mem_take listed)
    · rcases leading with ⟨zero, rfl⟩ | other
      · simp_all
      · intro c cs zeroFirst
        simp_all
    · exact fun c listed => areDigits.2 c (List.mem_of_mem_drop listed)

theorem spelled_scientificText (x : Binary64) :
    (scientificText x).Spelled x.scientific.toList := by
  have sign : (if x.negative then "-" else "").toList = if x.negative then ['-'] else [] := by
    split <;> rfl
  have zero : AreWhole ['0'] := areWhole_toDigits 0
  have leading := leading_digit x
  rw [scientificText, scientific]
  obtain ⟨digits, point, parts⟩ : ∃ digits point, digitsAndPoint x.shortest = (digits, point) :=
    ⟨_, _, rfl⟩
  simp only [parts] at leading ⊢
  split
  · have text := spelled_pointed x.negative zero zero.1
    rw [String.toList_append, sign]
    simpa using text
  · split
    · next near =>
      obtain ⟨areWhole, fraction⟩ := positional_spec leading.1 leading.2
      obtain ⟨whole, behind, places⟩ : ∃ whole behind, positional digits point = (whole, behind) :=
        ⟨_, _, rfl⟩
      simp only [places] at areWhole fraction ⊢
      have areDigits : AreDigits (if behind.isEmpty then ['0'] else behind.toList) := by
        split
        · exact zero.1
        · next some => exact ⟨by simpa using some, fraction⟩
      have text := spelled_pointed x.negative areWhole areDigits
      simp only [String.toList_append, sign, apply_ite String.toList]
      rwa [List.append_assoc]
    · next far =>
      have exponent : AreDigits (Nat.toDigits 10 (point - 1).natAbs) := (areWhole_toDigits _).1
      obtain ⟨d, rest, rfl⟩ := List.exists_cons_of_ne_nil leading.1.1
      have text := spelled_exponential x.negative (point - 1 < 0) leading.1.2 exponent
      have mark : (if point - 1 < 0 then "-" else "+").toList =
          [if point - 1 < 0 then '-' else '+'] := by
        split <;> rfl
      simp only [String.toList_append, sign, mark]
      cases rest with
      | nil => simpa using text
      | cons next rest => simpa using text

/-! ## Readability -/

theorem digitValue_le {d : Char} (digit : d.isDigit = true) : digitValue d ≤ 9 := by
  have nine : d.toNat ≤ '9'.toNat := by
    simp only [Char.isDigit, Bool.and_eq_true, decide_eq_true_eq] at digit
    exact digit.2
  exact Nat.sub_le_sub_right nine '0'.toNat

/-- A text without an exponent is read, if what is before its point is not too great. -/
theorem isSome_value?_pointed (negative : Bool) {whole fraction : List Char}
    (small : Nat.ofDigitChars 10 whole 0 ≤ maxSignificand) (nonempty : fraction ≠ []) :
    (NumberText.value? ⟨negative, whole, fraction, none⟩).isSome := by
  obtain ⟨m, unread, gathered⟩ : ∃ m unread,
      gather maxSignificand (Nat.ofDigitChars 10 whole 0) fraction = (m, unread) := ⟨_, _, rfl⟩
  obtain ⟨few, -, -⟩ := gather_spec small gathered
  have fraction : fraction.isEmpty = false := List.isEmpty_eq_false_iff.mpr nonempty
  simp only [NumberText.value?, gather_eq small, fraction, gathered]
  exact isSome_scaled negative few fun up => by
    rw [List.length_nil] at up
    omega

/-- A text with one digit before its point is read, if its exponent is negative or the decimal is
not too great. -/
theorem isSome_value?_exponential (negative down : Bool) {d : Char} {digits : List Char} {k : ℕ}
    (digit : d.isDigit = true)
    (bound : down = false → k ≤ maxExponentText ∧
      (Nat.ofDigitChars 10 (d :: digits) 0 : ℚ) * 10 ^ (k - digits.length : ℤ) ≤ lastMidpoint) :
    (NumberText.value? ⟨negative, [d], digits, some (down, Nat.toDigits 10 k)⟩).isSome := by
  have first : Nat.ofDigitChars 10 [d] 0 ≤ maxSignificand := by
    have value : Nat.ofDigitChars 10 [d] 0 = digitValue d := Nat.zero_add _
    rw [value]
    exact (digitValue_le digit).trans (by decide)
  obtain ⟨m, unread, gathered⟩ : ∃ m unread,
      gather maxSignificand (Nat.ofDigitChars 10 [d] 0) digits = (m, unread) := ⟨_, _, rfl⟩
  obtain ⟨few, fewer, below⟩ := gather_spec first gathered
  obtain ⟨l, rest, exponent⟩ : ∃ l rest,
      gather maxExponentText 0 (Nat.toDigits 10 k) = (l, rest) := ⟨_, _, rfl⟩
  simp only [NumberText.value?, gather_eq first, gathered, exponent, Option.isNone_some,
    Bool.and_false, Bool.false_and, List.length_nil]
  cases down with
  | true =>
      cases rest with
      | nil =>
          refine isSome_scaled negative few fun up => ?_
          rw [if_pos rfl] at up
          omega
      | cons c cs => simp
  | false =>
      obtain ⟨near, within⟩ := bound rfl
      have all : Nat.ofDigitChars 10 (Nat.toDigits 10 k) 0 ≤ maxExponentText := by
        rwa [Nat.ofDigitChars_ten_toDigits]
      rw [gather_eq all, Nat.ofDigitChars_ten_toDigits] at exponent
      obtain ⟨rfl, rfl⟩ := Prod.mk.inj exponent
      refine isSome_scaled negative few fun _ => ?_
      -- The digits that are left raise the exponent as much as they are missing in the significand.
      have exponents : ((0 : ℕ) : ℤ) - (digits.length - unread.length : ℕ) + k =
          unread.length + (k - digits.length) := by omega
      rw [if_neg (by decide), exponents, zpow_add₀ (by norm_num), zpow_natCast, ← mul_assoc]
      refine le_trans (mul_le_mul_of_nonneg_right ?_ (zpow_pos (by norm_num) _).le) within
      exact_mod_cast below

theorem isSome_value?_greatest (negative : Bool) :
    (scientificText ⟨negative, 2 ^ 53 - 1, 971⟩).value?.isSome := by
  cases negative <;> decide +kernel

theorem ofDigitChars_lt {cs : List Char} (digits : ∀ c ∈ cs, c.isDigit = true) (n : ℕ) :
    Nat.ofDigitChars 10 cs n < (n + 1) * 10 ^ cs.length := by
  induction cs generalizing n with
  | nil => simp
  | cons d ds ih =>
      obtain ⟨first, others⟩ := List.forall_mem_cons.mp digits
      have nine := digitValue_le first
      rw [Nat.ofDigitChars_cons, List.length_cons, Nat.pow_succ]
      calc
        Nat.ofDigitChars 10 ds (10 * n + (d.toNat - '0'.toNat))
          < (10 * n + (d.toNat - '0'.toNat) + 1) * 10 ^ ds.length := ih others _
        _ ≤ ((n + 1) * 10) * 10 ^ ds.length := Nat.mul_le_mul_right _ (by
          rw [digitValue] at nine
          omega)
        _ = (n + 1) * (10 ^ ds.length * 10) := by ring

theorem length_positional {digits : List Char} {point : ℤ} (near : point ≤ 16) :
    (positional digits point).1.toList.length ≤ 16 := by
  rw [positional]
  split
  · exact (by decide : "0".toList.length ≤ 16)
  · simp only [String.toList_ofList, List.length_append, List.length_take, List.length_replicate]
    omega

/-- A decimal that is not too great has no great exponent for its first digit. -/
theorem exponent_lt {d : Char} {rest : List Char} {e : ℤ} (digit : d.isDigit = true)
    (nonzero : d ≠ '0')
    (small : (Nat.ofDigitChars 10 (d :: rest) 0 : ℚ) * 10 ^ e ≤ lastMidpoint) :
    rest.length + e < 309 := by
  have one : 1 ≤ digitValue d := by
    have least : '0'.toNat ≤ d.toNat := by
      simp only [Char.isDigit, Bool.and_eq_true, decide_eq_true_eq] at digit
      exact digit.1
    have other : d.toNat ≠ '0'.toNat := fun same => nonzero (Char.toNat_inj.mp same)
    rw [digitValue]
    omega
  have digits : 10 ^ rest.length ≤ Nat.ofDigitChars 10 (d :: rest) 0 := by
    calc
      10 ^ rest.length ≤ digitValue d * 10 ^ rest.length := Nat.le_mul_of_pos_left _ one
      _ ≤ Nat.ofDigitChars 10 rest (digitValue d) := mul_pow_le_ofDigitChars rest _
      _ = Nat.ofDigitChars 10 (d :: rest) 0 := by
        rw [Nat.ofDigitChars_cons, Nat.mul_zero, Nat.zero_add, digitValue]
  have great : (lastMidpoint : ℚ) < 10 ^ ((maxPower + 1 : ℕ) : ℤ) := by
    rw [zpow_natCast]
    exact_mod_cast lastMidpoint_lt
  refine (zpow_lt_zpow_iff_right₀ (by norm_num : (1 : ℚ) < 10)).mp (lt_of_le_of_lt ?_ great)
  calc
    (10 : ℚ) ^ (rest.length + e) = (10 ^ rest.length : ℕ) * 10 ^ e := by
      rw [zpow_add₀ (by norm_num), zpow_natCast, Nat.cast_pow]
      rfl
    _ ≤ Nat.ofDigitChars 10 (d :: rest) 0 * 10 ^ e :=
      mul_le_mul_of_nonneg_right (Nat.cast_le.mpr digits) (zpow_pos (by norm_num) _).le
    _ ≤ lastMidpoint := small

/-- Below the greatest number, a shortest decimal is not too great, nor is the exponent of its first
digit. -/
theorem shortest_bounds {x : Binary64} {d : Char} {rest : List Char} (fits : x.Fits)
    (other : ¬ (x.significand = 2 ^ 53 - 1 ∧ x.exponent = 971)) (positive : 0 < x.shortest.digits)
    (bound : x.shortest.value ≤ x.upperEnd)
    (digits : Nat.toDigits 10 x.shortest.digits = d :: rest) :
    (Nat.ofDigitChars 10 (d :: rest) 0 : ℚ) * 10 ^ x.shortest.exponent ≤ lastMidpoint ∧
      rest.length + x.shortest.exponent < 309 := by
  have small : (Nat.ofDigitChars 10 (d :: rest) 0 : ℚ) * 10 ^ x.shortest.exponent ≤
      lastMidpoint := by
    rw [← digits, Nat.ofDigitChars_ten_toDigits]
    exact bound.trans (upperEnd_le fits other)
  have digit : d.isDigit = true :=
    (areWhole_toDigits x.shortest.digits).1.2 d (digits ▸ List.mem_cons_self)
  have nonzero : d ≠ '0' := by
    rintro rfl
    exact head?_toDigits_ne_zero positive (congrArg List.head? digits)
  exact ⟨small, exponent_lt digit nonzero small⟩

/-- Every number of the format is written as a number that can be read. -/
theorem isSome_value?_scientificText {x : Binary64} (fits : x.Fits) :
    (scientificText x).value?.isSome := by
  by_cases greatest : x.significand = 2 ^ 53 - 1 ∧ x.exponent = 971
  · obtain ⟨negative, significand, exponent⟩ := x
    obtain ⟨rfl, rfl⟩ := greatest
    exact isSome_value?_greatest negative
  have leading := leading_digit x
  have shortest := shortest_spec x
  rw [scientificText]
  split
  next digits point parts =>
  simp only [parts] at leading
  split
  · exact isSome_value?_pointed x.negative (by decide) (List.cons_ne_nil _ _)
  · split
    · next near =>
      obtain ⟨areWhole, _⟩ := positional_spec leading.1 leading.2
      have short : (positional digits point).1.toList.length ≤ 16 := length_positional near.2
      obtain ⟨whole, behind, places⟩ : ∃ whole behind, positional digits point = (whole, behind) :=
        ⟨_, _, rfl⟩
      simp only [places] at areWhole short ⊢
      refine isSome_value?_pointed x.negative ?_ ?_
      · have few := ofDigitChars_lt areWhole.1.2 0
        have power : 10 ^ whole.toList.length ≤ 10 ^ 16 := Nat.pow_le_pow_right (by decide) short
        have room : 10 ^ 16 ≤ maxSignificand := by decide
        omega
      · split
        · exact List.cons_ne_nil _ _
        · next some => simpa using some
    · next nonzero far =>
      obtain ⟨d, rest, rfl⟩ := List.exists_cons_of_ne_nil leading.1.1
      have digit := leading.1.2 d List.mem_cons_self
      refine isSome_value?_exponential x.negative _ digit fun up => ?_
      rcases shortest with none | ⟨positive, bound⟩
      · rw [none] at parts
        obtain ⟨-, rfl⟩ := Prod.mk.inj parts
        exact absurd (by decide) far
      obtain ⟨same, rfl⟩ := Prod.mk.inj parts
      obtain ⟨small, most⟩ := shortest_bounds fits greatest positive bound same
      have length : (Nat.toDigits 10 x.shortest.digits).length = rest.length + 1 :=
        congrArg List.length same
      have up : 0 ≤ (rest.length : ℤ) + x.shortest.exponent := by
        have := of_decide_eq_false up
        omega
      have exponent : (((Nat.toDigits 10 x.shortest.digits).length + x.shortest.exponent - 1).natAbs
          : ℤ) = rest.length + x.shortest.exponent := by omega
      refine ⟨?_, ?_⟩
      · have room : 309 ≤ maxExponentText := by decide
        omega
      · rw [exponent, List.drop_one, List.tail_cons, add_sub_cancel_left]
        exact small

end Json

end SyncPods
