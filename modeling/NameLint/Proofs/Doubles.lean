import NameLint.Number
import Mathlib.Algebra.Order.Field.Power
import Mathlib.Tactic.FieldSimp
import Mathlib.Tactic.Linarith
import Mathlib.Tactic.Ring

/-!
# Doubles as they are made

Rounding a quotient gives the data of a double: a mantissa of at most 53 binary
digits, and of no fewer unless the exponent is the least one. So every number that
is read or converted is a double in this sense, and the whole numbers among them
are those whose value is one.
-/

namespace NameLint

namespace Binary64

/-- Whether the data are those of a double: the mantissa has at most 53 binary digits, and fewer
only with the least exponent, and the exponent is in its range. -/
def IsDouble : Binary64 → Prop
  | .finite _ m e => m < 2 * leastMantissa ∧ (leastMantissa ≤ m ∨ e = leastExponent) ∧
      leastExponent ≤ e ∧ e ≤ greatestExponent
  | _ => True

def value? : Binary64 → Option ℚ
  | .finite negative m e => some ((if negative then -1 else 1) * (m * 2 ^ e))
  | _ => none

theorem twoTo_pos (e : Int) : 0 < twoTo e :=
  Nat.pow_pos (by decide)

theorem cast_twoTo {e : Int} (h : 0 ≤ e) : (twoTo e : ℚ) = 2 ^ e := by
  have power : twoTo e = 2 ^ e.toNat := rfl
  rw [power]
  push_cast
  rw [← zpow_natCast, Int.toNat_of_nonneg h]

theorem cast_leastMantissa : (leastMantissa : ℚ) = 2 ^ (52 : ℤ) := by
  norm_num [leastMantissa]

/-- A number is between the powers of two that its binary length gives. -/
theorem zpow_log2 {n : Nat} (positive : n ≠ 0) :
    (2 : ℚ) ^ (Nat.log2 n : ℤ) ≤ n ∧ (n : ℚ) < 2 ^ ((Nat.log2 n : ℤ) + 1) := by
  constructor
  · rw [zpow_natCast]
    exact_mod_cast Nat.log2_self_le positive
  · have above : n < 2 ^ (Nat.log2 n + 1) := Nat.lt_log2_self
    exact_mod_cast above

section

variable {num den : Nat}

theorem scaleDown_pos (num : Nat) (hden : den ≠ 0) (e : Int) : 0 < (scaleDown num den e).2 := by
  have positive := Nat.pos_of_ne_zero hden
  unfold scaleDown
  split
  · exact Nat.mul_pos positive (twoTo_pos e)
  · exact positive

theorem scaleDown_ratio (num : Nat) (hden : den ≠ 0) (e : Int) :
    ((scaleDown num den e).1 : ℚ) / (scaleDown num den e).2 = num / den / 2 ^ e := by
  have nonzero : (den : ℚ) ≠ 0 := by exact_mod_cast hden
  have power : (2 : ℚ) ^ e ≠ 0 := by positivity
  unfold scaleDown
  split
  · rename_i up
    dsimp only
    push_cast
    rw [cast_twoTo up, div_div]
  · rename_i down
    dsimp only
    push_cast
    rw [cast_twoTo (by omega), zpow_neg]
    field_simp

/-- The binary lengths of the two numbers place their quotient up to a factor of two. -/
theorem quotient_bounds (hnum : num ≠ 0) (hden : den ≠ 0) :
    (2 : ℚ) ^ ((Nat.log2 num : ℤ) - Nat.log2 den - 1) < num / den ∧
      (num / den : ℚ) < 2 ^ ((Nat.log2 num : ℤ) - Nat.log2 den + 1) := by
  obtain ⟨numLow, numHigh⟩ := zpow_log2 hnum
  obtain ⟨denLow, denHigh⟩ := zpow_log2 hden
  have dpos : (0 : ℚ) < den := by exact_mod_cast Nat.pos_of_ne_zero hden
  constructor
  · rw [lt_div_iff₀ dpos]
    calc (2 : ℚ) ^ ((Nat.log2 num : ℤ) - Nat.log2 den - 1) * den
        < 2 ^ ((Nat.log2 num : ℤ) - Nat.log2 den - 1) * 2 ^ ((Nat.log2 den : ℤ) + 1) :=
          mul_lt_mul_of_pos_left denHigh (by positivity)
      _ = 2 ^ (Nat.log2 num : ℤ) := by
          rw [← zpow_add₀ (by norm_num)]
          congr 1
          ring
      _ ≤ num := numLow
  · rw [div_lt_iff₀ dpos]
    calc (num : ℚ) < 2 ^ ((Nat.log2 num : ℤ) + 1) := numHigh
      _ = 2 ^ ((Nat.log2 num : ℤ) - Nat.log2 den + 1) * 2 ^ (Nat.log2 den : ℤ) := by
          rw [← zpow_add₀ (by norm_num)]
          congr 1
          ring
      _ ≤ 2 ^ ((Nat.log2 num : ℤ) - Nat.log2 den + 1) * den :=
          mul_le_mul_of_nonneg_left denLow (by positivity)

theorem scaleDown_lt_iff (num : Nat) (hden : den ≠ 0) (e : Int) :
    (scaleDown num den e).1 < leastMantissa * (scaleDown num den e).2 ↔
      (num / den : ℚ) < 2 ^ (e + 52) := by
  have spos : (0 : ℚ) < (scaleDown num den e).2 := by exact_mod_cast scaleDown_pos num hden e
  have power : (0 : ℚ) < 2 ^ e := by positivity
  rw [add_comm e, zpow_add₀ (by norm_num), ← div_lt_iff₀ power, ← scaleDown_ratio num hden,
    div_lt_iff₀ spos, ← cast_leastMantissa]
  exact_mod_cast Iff.rfl

/-- The exponent for a quotient is the one that leaves it 53 binary digits, or the least one. -/
theorem exponentFor_exact (hnum : num ≠ 0) (hden : den ≠ 0) :
    ∃ exact, exponentFor num den = max exact leastExponent ∧
      (2 : ℚ) ^ (exact + 52) ≤ num / den ∧ (num / den : ℚ) < 2 ^ (exact + 53) := by
  obtain ⟨low, high⟩ := quotient_bounds hnum hden
  generalize hguess : (Nat.log2 num : Int) - Nat.log2 den - 52 = guess
  have chosen : exponentFor num den = max (if (scaleDown num den guess).1 <
      leastMantissa * (scaleDown num den guess).2 then guess - 1 else guess) leastExponent := by
    rw [← hguess]
    rfl
  -- One comparison settles which of the two exponents it is.
  by_cases small : (num / den : ℚ) < 2 ^ (guess + 52)
  · refine ⟨guess - 1, ?_, ?_, ?_⟩
    · rw [chosen, if_pos ((scaleDown_lt_iff num hden guess).mpr small)]
    · rw [show guess - 1 + 52 = (Nat.log2 num : ℤ) - Nat.log2 den - 1 by omega]
      exact low.le
    · rw [show guess - 1 + 53 = guess + 52 by omega]
      exact small
  · refine ⟨guess, ?_, not_lt.mp small, ?_⟩
    · rw [chosen, if_neg (mt (scaleDown_lt_iff num hden guess).mp small)]
    · rw [show guess + 53 = (Nat.log2 num : ℤ) - Nat.log2 den + 1 by omega]
      exact high

/-- The exponent for a quotient leaves it 53 binary digits, or is the least one and leaves it
fewer. -/
theorem exponentFor_bounds (hnum : num ≠ 0) (hden : den ≠ 0) :
    leastExponent ≤ exponentFor num den ∧
    (num / den / 2 ^ exponentFor num den : ℚ) < 2 ^ (53 : ℤ) ∧
    (2 ^ (52 : ℤ) ≤ (num / den / 2 ^ exponentFor num den : ℚ) ∨
      exponentFor num den = leastExponent) := by
  obtain ⟨exact, hexact, below, above⟩ := exponentFor_exact hnum hden
  have power : (0 : ℚ) < 2 ^ exponentFor num den := by positivity
  refine ⟨by rw [hexact]; exact le_max_right _ _, ?_, ?_⟩
  · rw [div_lt_iff₀ power, ← zpow_add₀ (by norm_num)]
    refine above.trans_le (zpow_le_zpow_right₀ (by norm_num) ?_)
    rw [hexact]
    have := le_max_left exact leastExponent
    omega
  · by_cases least : exact ≤ leastExponent
    · right
      rw [hexact, max_eq_right least]
    · left
      have same : exponentFor num den = exact := by
        rw [hexact, max_eq_left (by omega)]
      rw [le_div_iff₀ power, ← zpow_add₀ (by norm_num), same, add_comm]
      exact below

end

theorem divRound_bounds (num den : Nat) :
    num / den ≤ divRound num den ∧ divRound num den ≤ num / den + 1 := by
  unfold divRound
  dsimp only
  split
  · omega
  · omega

/-- Packing a mantissa of at most 54 binary digits that is not too short gives a double. -/
theorem isDouble_pack (negative : Bool) {m : Nat} {e : Int} (most : m ≤ 2 * leastMantissa)
    (enough : leastMantissa ≤ m ∨ e = leastExponent) (least : leastExponent ≤ e) :
    (pack negative m e).IsDouble := by
  have small : leastMantissa < 2 * leastMantissa := by decide
  unfold pack
  dsimp only
  cases carried : m == 2 * leastMantissa with
  | true =>
    rw [if_pos rfl, if_pos rfl]
    split
    · trivial
    · exact ⟨small, Or.inl (Nat.le_refl _), by omega, by omega⟩
  | false =>
    have other : m ≠ 2 * leastMantissa := by simpa using carried
    rw [if_neg Bool.false_ne_true, if_neg Bool.false_ne_true]
    split
    · trivial
    · exact ⟨by omega, enough, least, by omega⟩

/-- Rounding a quotient gives a double. -/
theorem isDouble_round (negative : Bool) (num : Nat) {den : Nat} (hden : den ≠ 0) :
    (round negative num den).IsDouble := by
  unfold round
  split
  · exact ⟨by decide, Or.inr rfl, le_refl _, by decide⟩
  · rename_i hnum
    dsimp only
    have nonzero : num ≠ 0 := by simpa using hnum
    obtain ⟨least, above, below⟩ := exponentFor_bounds nonzero hden
    rw [← scaleDown_ratio num hden] at above below
    have positive := scaleDown_pos num hden (exponentFor num den)
    generalize scaleDown num den (exponentFor num den) = scaled at above below positive
    have spos : (0 : ℚ) < scaled.2 := by exact_mod_cast positive
    obtain ⟨low, high⟩ := divRound_bounds scaled.1 scaled.2
    apply isDouble_pack
    · have less : scaled.1 / scaled.2 < 2 * leastMantissa := by
        rw [div_lt_iff₀ spos] at above
        rw [Nat.div_lt_iff_lt_mul positive]
        have cast : (scaled.1 : ℚ) < (2 * leastMantissa * scaled.2 : Nat) := by
          push_cast
          rw [cast_leastMantissa]
          calc (scaled.1 : ℚ) < 2 ^ (53 : ℤ) * scaled.2 := above
            _ = 2 * 2 ^ (52 : ℤ) * scaled.2 := by norm_num
        exact_mod_cast cast
      omega
    · rcases below with below | least
      · left
        rw [le_div_iff₀ spos, ← cast_leastMantissa] at below
        exact ((Nat.le_div_iff_mul_le positive).mpr (by exact_mod_cast below)).trans low
      · exact Or.inr least
    · exact least

theorem isDouble_ofInt (n : Int) : (ofInt n).IsDouble :=
  isDouble_round _ _ (by decide)

end Binary64

namespace Number

/-- The double that a number is or rounds to; a whole number past all finite doubles becomes
infinite. -/
def rounded : Number → Binary64
  | .whole n => Binary64.ofInt n
  | .double x => x

end Number

end NameLint
