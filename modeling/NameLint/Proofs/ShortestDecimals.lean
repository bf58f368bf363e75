import NameLint.Proofs.Numerals

/-!
# How near the shortest decimal is

The shortest decimal of a double is no further from it than half a unit of its last
place, on whichever grid it was found. So it is whole exactly where the double is, and
it is below the twenty-first power of ten exactly where the double is: that power is
itself a double, and no smaller double is so near to it.
-/

namespace NameLint

namespace Decimal

open NumeralFormat

theorem twoTo_ratio (k : Int) : (Binary64.twoTo k : ℚ) / Binary64.twoTo (-k) = 2 ^ k := by
  have power : ∀ e : Int, Binary64.twoTo e = 2 ^ e.toNat := fun _ => rfl
  rw [power, power]
  push_cast
  rw [← zpow_natCast, ← zpow_natCast, ← zpow_sub₀ (by norm_num)]
  congr 1
  omega

/-- Taking zeros off the end leaves the number as it is, and the exponent does not get smaller. -/
theorem trimZeros_value (fuel digits : Nat) (exponent : Int) :
    (trimZeros fuel digits exponent).value = digits * 10 ^ exponent ∧
      exponent ≤ (trimZeros fuel digits exponent).exponent := by
  induction fuel generalizing digits exponent with
  | zero => exact ⟨rfl, le_refl _⟩
  | succ fuel ih =>
    rw [trimZeros]
    split
    · rename_i zero
      rw [Bool.and_eq_true, beq_iff_eq] at zero
      obtain ⟨value, least⟩ := ih (digits / 10) (exponent + 1)
      refine ⟨?_, by omega⟩
      have whole : ((digits / 10 : Nat) : ℚ) * 10 = digits := by
        exact_mod_cast Nat.div_mul_cancel (Nat.dvd_of_mod_eq_zero zero.2)
      rw [value, zpow_add_one₀ (by norm_num), ← whole]
      ring
    · exact ⟨rfl, le_refl _⟩

namespace Interval

/-- Numerators of the interval around a double count quarters of a unit. -/
theorem quarters_ratio (t : Nat) (e : Int) :
    ((t * Binary64.twoTo (e - 2) : Nat) : ℚ) / Binary64.twoTo (-(e - 2)) = t * (2 ^ e / 4) := by
  push_cast
  rw [mul_div_assoc, twoTo_ratio, zpow_sub₀ (by norm_num)]
  norm_num

theorem around_value (m : Nat) (e : Int) :
    ((around m e).value : ℚ) / (around m e).den = m * 2 ^ e := by
  have quarters : ((around m e).value : ℚ) / (around m e).den = _ := quarters_ratio (4 * m) e
  rw [quarters]
  push_cast
  ring

theorem around_high (m : Nat) (e : Int) :
    ((around m e).high : ℚ) / (around m e).den = m * 2 ^ e + 2 ^ e / 2 := by
  have quarters : ((around m e).high : ℚ) / (around m e).den = _ := quarters_ratio (4 * m + 2) e
  rw [quarters]
  push_cast
  ring

/-- Below a double the interval ends at half a unit or, next to a power of two, at a quarter. -/
theorem around_low {m : Nat} (nonzero : m ≠ 0) (e : Int) :
    (m * 2 ^ e - 2 ^ e / 2 : ℚ) ≤ (around m e).low / (around m e).den ∧
      (around m e).low < (around m e).value := by
  obtain ⟨below, least, most, low⟩ : ∃ below : Nat, 0 < below ∧ below ≤ 2 ∧
      (around m e).low = (4 * m - below) * Binary64.twoTo (e - 2) := by
    unfold around
    dsimp only
    split
    · exact ⟨1, by omega, by omega, rfl⟩
    · exact ⟨2, by omega, by omega, rfl⟩
  have power : (0 : ℚ) < 2 ^ e := by positivity
  constructor
  · have quarters : ((around m e).low : ℚ) / (around m e).den =
        (4 * m - below : Nat) * (2 ^ e / 4) := by
      rw [low]
      exact quarters_ratio _ e
    rw [quarters, Nat.cast_sub (by omega)]
    have few : (below : ℚ) ≤ 2 := by exact_mod_cast most
    push_cast
    nlinarith
  · rw [low]
    exact Nat.mul_lt_mul_of_pos_right (by omega) (Binary64.twoTo_pos _)

theorem around_value_lt_high (m : Nat) (e : Int) : (around m e).value < (around m e).high :=
  Nat.mul_lt_mul_of_pos_right (by omega) (Binary64.twoTo_pos _)

/-- A point of a grid that rounds to a double is between the ends of its interval. -/
theorem holds_bounds {i : Interval} (den : i.den ≠ 0) {n : Nat} {k : Int}
    (h : i.holds n k = true) :
    (i.low / i.den : ℚ) ≤ n * 10 ^ k ∧ (n * 10 ^ k : ℚ) ≤ i.high / i.den := by
  have between : i.low * Binary64.tenTo (-k) ≤ n * Binary64.tenTo k * i.den ∧
      n * Binary64.tenTo k * i.den ≤ i.high * Binary64.tenTo (-k) := by
    unfold holds onGrid at h
    dsimp only at h
    split at h
    · simpa using h
    · rw [Bool.and_eq_true, decide_eq_true_eq, decide_eq_true_eq] at h
      exact ⟨h.1.le, h.2.le⟩
  have dpos : (0 : ℚ) < i.den := by exact_mod_cast Nat.pos_of_ne_zero den
  have tpos : (0 : ℚ) < Binary64.tenTo (-k) := by
    exact_mod_cast Nat.pow_pos (n := (-k).toNat) (show 0 < 10 by decide)
  have grid : (n * 10 ^ k : ℚ) = n * Binary64.tenTo k / Binary64.tenTo (-k) := by
    have ratio := tenTo_ratio (-k)
    rw [neg_neg] at ratio
    rw [mul_div_assoc, ratio]
  rw [grid, div_le_div_iff₀ dpos tpos, div_le_div_iff₀ tpos dpos]
  exact ⟨by exact_mod_cast between.1, by exact_mod_cast between.2⟩

theorem holds_of_onGrid? {i : Interval} {k : Int} {n : Nat} (h : i.onGrid? k = some n) :
    i.holds n k = true := by
  unfold onGrid? at h
  dsimp only at h
  split at h
  · rename_i here next
    cases h
    unfold Binary64.divRound
    dsimp only
    split
    · exact next
    · exact here
  · rename_i here _
    cases h
    exact here
  · rename_i _ next
    cases h
    exact next
  · cases h

/-- Rounding a quotient to a whole number changes it by half a unit at most. -/
theorem divRound_near (num : Nat) {den : Nat} (positive : 0 < den) :
    |(Binary64.divRound num den : ℚ) - num / den| ≤ 1 / 2 := by
  have dpos : (0 : ℚ) < den := by exact_mod_cast positive
  have parts : (num : ℚ) = den * (num / den : Nat) + (num % den : Nat) := by
    exact_mod_cast (Nat.div_add_mod num den).symm
  have quotient : (num / den : ℚ) = (num / den : Nat) + (num % den : Nat) / den := by
    rw [parts]
    field_simp
  rw [quotient, abs_le]
  unfold Binary64.divRound
  dsimp only
  split
  · rename_i up
    have half : (den : ℚ) ≤ 2 * (num % den : Nat) := by
      rw [Bool.or_eq_true, Bool.and_eq_true, decide_eq_true_eq, beq_iff_eq] at up
      exact_mod_cast (show den ≤ 2 * (num % den) by omega)
    have low : 1 / 2 ≤ ((num % den : Nat) : ℚ) / den := by
      rw [div_le_div_iff₀ (by norm_num) dpos]
      linarith
    have high : ((num % den : Nat) : ℚ) / den ≤ 1 := by
      rw [div_le_one₀ dpos]
      exact_mod_cast (Nat.mod_lt num positive).le
    push_cast
    constructor <;> linarith
  · rename_i down
    have half : 2 * ((num % den : Nat) : ℚ) ≤ den := by
      rw [Bool.or_eq_true, not_or, decide_eq_true_eq] at down
      exact_mod_cast (show 2 * (num % den) ≤ den by omega)
    have low : 0 ≤ ((num % den : Nat) : ℚ) / den := div_nonneg (Nat.cast_nonneg _) dpos.le
    have high : ((num % den : Nat) : ℚ) / den ≤ 1 / 2 := by
      rw [div_le_div_iff₀ dpos (by norm_num)]
      linarith
    constructor <;> linarith

/-- The last grid of a search is no coarser than the unit of a double. -/
theorem tens_le_unit {m : Nat} (nonzero : m ≠ 0) (few : m < 2 * Binary64.leastMantissa) (e : Int) :
    (10 : ℚ) ^ ((around m e).point - 18) ≤ 2 ^ e := by
  obtain ⟨positive, den⟩ := around_positive nonzero e
  have low := (point_bounds positive den).1
  rw [around_value] at low
  have bound : (m : ℚ) ≤ 10 ^ (17 : ℤ) := by
    have small : m ≤ 10 ^ 17 := by
      unfold Binary64.leastMantissa at few
      omega
    exact_mod_cast small
  have tens : (0 : ℚ) < 10 ^ (17 : ℤ) := by positivity
  refine le_of_mul_le_mul_right ?_ tens
  calc (10 : ℚ) ^ ((around m e).point - 18) * 10 ^ (17 : ℤ)
      = 10 ^ ((around m e).point - 1) := by
        rw [← zpow_add₀ (by norm_num)]
        congr 1
        ring
    _ ≤ m * 2 ^ e := low
    _ ≤ 10 ^ (17 : ℤ) * 2 ^ e := mul_le_mul_of_nonneg_right bound (by positivity)
    _ = 2 ^ e * 10 ^ (17 : ℤ) := mul_comm _ _

/-- A number rounded on a grid is within half a step of it. -/
theorem grid_near {n : Nat} {x : ℚ} {k : Int} (near : |(n : ℚ) - x * 10 ^ (-k)| ≤ 1 / 2) :
    |(n * 10 ^ k : ℚ) - x| ≤ 10 ^ k / 2 := by
  have grid : (0 : ℚ) < 10 ^ k := by positivity
  have moved : (n * 10 ^ k - x : ℚ) = (n - x * 10 ^ (-k)) * 10 ^ k := by
    rw [sub_mul, mul_assoc, ← zpow_add₀ (by norm_num), neg_add_cancel, zpow_zero, mul_one]
  rw [moved, abs_mul, abs_of_pos grid]
  linarith [mul_le_mul_of_nonneg_right near grid.le]

/-- A search finds a decimal that is within half a unit of the double. Where no grid has a hit, the
last one is fine enough for it. -/
theorem search_near {m : Nat} (nonzero : m ≠ 0) (few : m < 2 * Binary64.leastMantissa) (e : Int) :
    |((around m e).search 17 1).value - m * 2 ^ e| ≤ 2 ^ e / 2 := by
  have den := (around_positive nonzero e).2
  obtain ⟨p, _, _, exponent, _, found | ⟨last, rounded⟩⟩ := search_cases (around m e) 17 1
  · obtain ⟨low, high⟩ := holds_bounds den (holds_of_onGrid? found)
    rw [around_high] at high
    have below := (around_low nonzero e).1
    rw [Decimal.value, exponent, abs_le]
    constructor <;> linarith
  · have near := divRound_near ((around m e).scaled ((around m e).point - p)).1
      (scaled_pos den ((around m e).point - p))
    rw [← rounded, scaled_ratio, around_value] at near
    have fine := tens_le_unit nonzero few e
    rw [show (around m e).point - 18 = (around m e).point - p by omega] at fine
    rw [Decimal.value, exponent]
    exact (grid_near near).trans (by linarith)

/-- What a search finds has its first digit where the double has it, or before. -/
theorem search_value_ge {i : Interval} (value : i.value ≠ 0) (den : i.den ≠ 0) (fuel : Nat)
    {places : Nat} (some : places ≠ 0) :
    (10 : ℚ) ^ (i.point - 1) ≤ (i.search fuel places).value := by
  obtain ⟨p, least, _, exponent, below, _⟩ := search_neighbour i fuel places
  obtain ⟨low, _⟩ := scaled_bounds value den (show p ≠ 0 by omega)
  have digits : (10 : ℚ) ^ ((p : ℤ) - 1) ≤ (i.search fuel places).digits := by
    rw [show (p : ℤ) - 1 = ((p - 1 : Nat) : ℤ) by omega, zpow_natCast]
    exact_mod_cast low.trans below
  calc (10 : ℚ) ^ (i.point - 1) = 10 ^ ((p : ℤ) - 1) * 10 ^ (i.point - p) := by
        rw [← zpow_add₀ (by norm_num)]
        congr 1
        omega
    _ ≤ (i.search fuel places).digits * 10 ^ (i.point - p) :=
        mul_le_mul_of_nonneg_right digits (by positivity)
    _ = (i.search fuel places).value := by rw [Decimal.value, exponent]

/-- The point of a double from one on is behind the digits of its whole part. -/
theorem point_of_le {i : Interval} (large : i.den ≤ i.value) :
    i.point = (digitsOf (i.value / i.den)).length := by
  rw [point, if_pos large]
  rfl

/-- A whole number is hit on the grid of the whole numbers. -/
theorem onGrid?_zero_of_whole {i : Interval} (den : i.den ≠ 0) {n : Nat}
    (whole : i.value = n * i.den) (low : i.low < i.value) (high : i.value < i.high) :
    i.onGrid? 0 ≠ none := by
  have here : i.holds ((i.scaled 0).1 / (i.scaled 0).2) 0 = true := by
    have one : Binary64.tenTo 0 = 1 := rfl
    have quotient : (i.scaled 0).1 / (i.scaled 0).2 = n := by
      show i.value * Binary64.tenTo (-0) / (i.den * Binary64.tenTo 0) = n
      rw [Int.neg_zero, one, Nat.mul_one, Nat.mul_one, whole]
      exact Nat.mul_div_cancel n (Nat.pos_of_ne_zero den)
    unfold holds onGrid
    dsimp only
    rw [quotient, Int.neg_zero, one, Nat.mul_one, Nat.mul_one, Nat.mul_one, ← whole]
    split
    · simp [low.le, high.le]
    · simp [low, high]
  unfold onGrid?
  dsimp only
  rw [here]
  split <;> simp_all

/-- Searching for a whole number ends on a grid of whole numbers. -/
theorem search_exponent_of_whole {i : Interval} (den : i.den ≠ 0) {n : Nat} (positive : n ≠ 0)
    (whole : i.value = n * i.den) (low : i.low < i.value) (high : i.value < i.high) (fuel : Nat) :
    0 ≤ (i.search fuel 1).exponent := by
  have large : i.den ≤ i.value := by
    rw [whole]
    exact Nat.le_mul_of_pos_left _ (Nat.pos_of_ne_zero positive)
  have point := point_of_le large
  have some : 0 < (digitsOf (i.value / i.den)).length := Nat.length_toDigits_pos
  obtain ⟨p, _, _, exponent, before, _⟩ := search_cases i fuel 1
  rw [exponent]
  by_contra past
  have missed := before (digitsOf (i.value / i.den)).length (by omega) (by omega)
  rw [← point, Int.sub_self] at missed
  exact onGrid?_zero_of_whole den whole low high missed

end Interval

/-- The shortest decimal of a double is within half a unit of it. -/
theorem shortest_near {m : Nat} (nonzero : m ≠ 0) (few : m < 2 * Binary64.leastMantissa) (e : Int) :
    |(shortest m e).value - m * 2 ^ e| ≤ 2 ^ e / 2 := by
  have near := Interval.search_near nonzero few e
  rwa [value, ← (trimZeros_value 400 _ _).1] at near

/-- The shortest decimal of a double is not below a power of ten that the double has reached. -/
theorem shortest_value_ge {m : Nat} (nonzero : m ≠ 0) (e : Int) {t : Nat}
    (large : (10 : ℚ) ^ t ≤ m * 2 ^ e) : (10 : ℚ) ^ t ≤ (shortest m e).value := by
  obtain ⟨positive, den⟩ := Interval.around_positive nonzero e
  have found := Interval.search_value_ge positive den 17 (show 1 ≠ 0 by decide)
  have dpos : (0 : ℚ) < (Interval.around m e).den := by exact_mod_cast Nat.pos_of_ne_zero den
  rw [← Interval.around_value, le_div_iff₀ dpos] at large
  have reached : 10 ^ t ≤ (Interval.around m e).value / (Interval.around m e).den :=
    (Nat.le_div_iff_mul_le (Nat.pos_of_ne_zero den)).mpr (by exact_mod_cast large)
  have one : 0 < 10 ^ t := Nat.pow_pos (by decide)
  have point := Interval.point_of_le (i := Interval.around m e)
    (Nat.div_pos_iff.mp (one.trans_le reached)).2
  have long : t < (digitsOf ((Interval.around m e).value / (Interval.around m e).den)).length :=
    (Nat.pow_lt_pow_iff_right (by decide)).mp
      (reached.trans_lt (pow_length_digitsOf (by omega)).2)
  rw [shortest, (trimZeros_value 400 _ _).1]
  calc (10 : ℚ) ^ t = 10 ^ (t : ℤ) := (zpow_natCast _ _).symm
    _ ≤ 10 ^ ((Interval.around m e).point - 1) :=
        zpow_le_zpow_right₀ (by norm_num) (by omega)
    _ ≤ ((Interval.around m e).search 17 1).value := found

/-- The shortest decimal of a whole number is whole. -/
theorem shortest_exponent_of_whole {m : Nat} (nonzero : m ≠ 0) {e : Int} {n : Nat}
    (whole : (m * 2 ^ e : ℚ) = n) : 0 ≤ (shortest m e).exponent := by
  obtain ⟨positive, den⟩ := Interval.around_positive nonzero e
  have dnonzero : ((Interval.around m e).den : ℚ) ≠ 0 := by exact_mod_cast den
  have value : (Interval.around m e).value = n * (Interval.around m e).den := by
    rw [← Interval.around_value, div_eq_iff dnonzero] at whole
    exact_mod_cast whole
  have some : n ≠ 0 := by
    intro zero
    rw [zero, Nat.zero_mul] at value
    exact positive value
  have found := Interval.search_exponent_of_whole den some value (Interval.around_low nonzero e).2
    (Interval.around_value_lt_high m e) 17
  exact found.trans (trimZeros_value 400 _ _).2

/-- A double within half a unit of a whole number is whole. -/
theorem whole_of_near {m n : Nat} {e : Int} (near : |(n : ℚ) - m * 2 ^ e| ≤ 2 ^ e / 2) :
    ∃ k : Nat, (m * 2 ^ e : ℚ) = k := by
  by_cases up : 0 ≤ e
  · obtain ⟨t, rfl⟩ := Int.eq_ofNat_of_zero_le up
    refine ⟨m * 2 ^ t, ?_⟩
    push_cast
    rw [zpow_natCast]
  · -- The whole number is a multiple of the unit too, so the two are the same multiple.
    obtain ⟨t, ht⟩ := Int.eq_ofNat_of_zero_le (show 0 ≤ -e by omega)
    have unit : (2 : ℚ) ^ e * 2 ^ t = 1 := by
      rw [show e = -(t : ℤ) by omega, zpow_neg, zpow_natCast]
      exact inv_mul_cancel₀ (by positivity)
    have power : (0 : ℚ) < 2 ^ t := by positivity
    have multiple : (m * 2 ^ e : ℚ) * 2 ^ t = m := by
      rw [mul_assoc, unit, mul_one]
    rw [abs_le] at near
    have low : (m : ℚ) < n * 2 ^ t + 1 := by
      nlinarith [mul_le_mul_of_nonneg_right near.1 power.le]
    have high : (n : ℚ) * 2 ^ t < m + 1 := by
      nlinarith [mul_le_mul_of_nonneg_right near.2 power.le]
    have same : m = n * 2 ^ t := by
      have low' : m < n * 2 ^ t + 1 := by exact_mod_cast low
      have high' : n * 2 ^ t < m + 1 := by exact_mod_cast high
      omega
    refine ⟨n, ?_⟩
    rw [same]
    push_cast
    rw [mul_assoc, mul_comm ((2 : ℚ) ^ t), unit, mul_one]

/-- A whole double below the twenty-first power of ten is a unit or more below it. -/
theorem add_unit_le {m k : Nat} {e : Int}
    (enough : Binary64.leastMantissa ≤ m ∨ e = Binary64.leastExponent)
    (whole : (m * 2 ^ e : ℚ) = k) (below : k < 10 ^ 21) : (m * 2 ^ e + 2 ^ e : ℚ) ≤ 10 ^ 21 := by
  by_cases up : 0 ≤ e
  · obtain ⟨t, rfl⟩ := Int.eq_ofNat_of_zero_le up
    rw [zpow_natCast] at whole ⊢
    have same : m * 2 ^ t = k := by exact_mod_cast whole
    have mantissa : 2 ^ 52 ≤ m := by
      rcases enough with enough | least
      · exact enough
      · unfold Binary64.leastExponent at least
        omega
    -- The power of ten is a multiple of the unit, which is at most the twenty-first power of two.
    have small : t ≤ 21 := by
      by_contra past
      have powers : 2 ^ 22 ≤ 2 ^ t := Nat.pow_le_pow_right (by decide) (by omega)
      have product := Nat.mul_le_mul mantissa powers
      omega
    have tens : 10 ^ 21 = 5 ^ 21 * 2 ^ (21 - t) * 2 ^ t := by
      rw [Nat.mul_assoc, ← Nat.pow_add, Nat.sub_add_cancel small, ← Nat.mul_pow]
    have fewer : m < 5 ^ 21 * 2 ^ (21 - t) := by
      rw [tens, ← same] at below
      exact Nat.lt_of_mul_lt_mul_right below
    have room : m * 2 ^ t + 2 ^ t ≤ 10 ^ 21 := by
      rw [tens, ← Nat.succ_mul]
      exact Nat.mul_le_mul_right _ fewer
    exact_mod_cast room
  · have unit : (2 : ℚ) ^ e ≤ 1 := zpow_le_one_of_nonpos₀ (by norm_num) (by omega)
    have next : (k : ℚ) + 1 ≤ 10 ^ 21 := by exact_mod_cast below
    rw [whole]
    linarith

/-- The shortest decimal of a double is whole and has at most twenty-one digits before the point if
and only if the double is whole and below the twenty-first power of ten. -/
theorem shortest_whole_iff {negative : Bool} {m : Nat} {e : Int} (nonzero : m ≠ 0)
    (double : (Binary64.finite negative m e).IsDouble) :
    0 ≤ (shortest m e).exponent ∧ (shortest m e).point ≤ 21 ↔
      ∃ k : Nat, k < 10 ^ 21 ∧ (m * 2 ^ e : ℚ) = k := by
  obtain ⟨few, enough, _, _⟩ := double
  have near := shortest_near nonzero few e
  have normal := shortest_isNormal nonzero e
  rw [point_le_iff normal.digits_ne_zero]
  constructor
  · rintro ⟨whole, below⟩
    obtain ⟨t, ht⟩ := Int.eq_ofNat_of_zero_le whole
    have value : (shortest m e).value = ((shortest m e).digits * 10 ^ t : Nat) := by
      rw [Decimal.value, ht]
      push_cast
      rw [zpow_natCast]
    rw [value] at near
    obtain ⟨k, hk⟩ := whole_of_near near
    refine ⟨k, ?_, hk⟩
    by_contra reached
    have large : (10 : ℚ) ^ 21 ≤ m * 2 ^ e := by
      rw [hk]
      exact_mod_cast Nat.not_lt.mp reached
    have least := shortest_value_ge nonzero e large
    rw [← zpow_natCast] at least
    exact absurd below (not_lt.mpr least)
  · rintro ⟨k, below, whole⟩
    refine ⟨shortest_exponent_of_whole nonzero whole, ?_⟩
    have room := add_unit_le enough whole below
    have unit : (0 : ℚ) < 2 ^ e := by positivity
    have high := (abs_le.mp near).2
    rw [show (21 : ℤ) = ((21 : Nat) : ℤ) by rfl, zpow_natCast]
    linarith

end Decimal

end NameLint
