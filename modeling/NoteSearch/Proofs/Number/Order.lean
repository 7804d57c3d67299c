import Mathlib.Algebra.Order.Field.Basic
import Mathlib.Algebra.Order.Field.Power
import Mathlib.Algebra.Order.Field.Rat
import Mathlib.Data.Nat.Log
import Mathlib.Data.Rat.Cast.Order
import Mathlib.Tactic.Ring
import NoteSearch.Number.Binary64

/-!
# The order of double-precision numbers

Finite numbers are compared as the rationals that they stand for, so they are in a linear order but for
the two zeros. Rounding does not pass a bound that is a number itself: a quotient of at most one is
rounded to at most one, and one minus a quotient is at most one when it is above zero.
-/

namespace NoteSearch.Binary64

variable {x y z : Binary64} {negative : Bool} {num den mantissa : Nat} {exponent lower : Int}

def IsFinite : Binary64 → Prop
  | .finite .. => True
  | .infinite _ | .nan => False

/-- What a finite number stands for. -/
def value : Binary64 → ℚ
  | .finite negative mantissa exponent =>
      (if negative then -(mantissa : ℚ) else mantissa) * 2 ^ exponent
  | .infinite _ | .nan => 0

theorem isFinite_finite : (finite negative mantissa exponent).IsFinite :=
  trivial

theorem IsFinite.exists_eq (h : x.IsFinite) :
    ∃ negative mantissa exponent, x = finite negative mantissa exponent := by
  cases x with
  | finite negative mantissa exponent => exact ⟨negative, mantissa, exponent, rfl⟩
  | infinite _ => exact h.elim
  | nan => exact h.elim

/-! ### Comparing -/

theorem signedAt_eq (h : lower ≤ exponent) :
    (signedAt lower negative mantissa exponent : ℚ)
      = (finite negative mantissa exponent).value / 2 ^ lower := by
  have hshift : (2 : ℚ) ^ (exponent - lower).toNat = 2 ^ exponent / 2 ^ lower := by
    rw [← zpow_natCast, Int.toNat_of_nonneg (by omega), zpow_sub₀ (by decide)]
  cases negative <;> simp [signedAt, value, hshift, mul_div_assoc, neg_div]

theorem lt_iff_value_lt (hx : x.IsFinite) (hy : y.IsFinite) : x.lt y ↔ x.value < y.value := by
  obtain ⟨s, m, e, rfl⟩ := hx.exists_eq
  obtain ⟨s', m', e', rfl⟩ := hy.exists_eq
  rw [lt, decide_eq_true_eq, ← Int.cast_lt (R := ℚ), signedAt_eq (Int.min_le_left e e'),
    signedAt_eq (Int.min_le_right e e')]
  exact div_lt_div_iff_of_pos_right (zpow_pos (by decide) _)

theorem le_iff_value_le (hx : x.IsFinite) (hy : y.IsFinite) : x.le y ↔ x.value ≤ y.value := by
  obtain ⟨s, m, e, rfl⟩ := hx.exists_eq
  obtain ⟨s', m', e', rfl⟩ := hy.exists_eq
  rw [le, decide_eq_true_eq, ← Int.cast_le (R := ℚ), signedAt_eq (Int.min_le_left e e'),
    signedAt_eq (Int.min_le_right e e')]
  exact div_le_div_iff_of_pos_right (zpow_pos (by decide) _)

theorem lt_of_le_lt (hle : x.le y) (hlt : y.lt z) : x.lt z := by
  cases x with
  | finite =>
      cases y with
      | finite =>
          cases z with
          | finite =>
              rw [le_iff_value_le isFinite_finite isFinite_finite] at hle
              rw [lt_iff_value_lt isFinite_finite isFinite_finite] at hlt ⊢
              exact hle.trans_lt hlt
          | infinite _ => exact hlt
          | nan => exact hlt
      | infinite negative => cases negative <;> cases z <;> simp_all [le, lt]
      | nan => exact absurd hle (by simp [le])
  | infinite negative => cases negative <;> cases y <;> cases z <;> simp_all [le, lt]
  | nan => exact absurd hle (by simp [le])

/-! ### Rounding -/

theorem roundHalfEven_le {bound : Nat} (hden : 0 < den) (h : num ≤ bound * den) :
    roundHalfEven num den ≤ bound := by
  have hquotient : num / den ≤ bound := Nat.div_le_of_le_mul (Nat.mul_comm bound den ▸ h)
  have hsplit := Nat.div_add_mod num den
  rw [roundHalfEven]
  split
  · next hup =>
      -- at the bound itself nothing remains that could be rounded up
      have hne : num / den ≠ bound := by
        intro heq
        rw [heq, Nat.mul_comm] at hsplit
        omega
      omega
  · exact hquotient

theorem exponentOf_neg (h : num ≤ den) : exponentOf num den < 0 := by
  have hlog : num.log2 ≤ den.log2 := by
    rw [Nat.log2_eq_log_two, Nat.log2_eq_log_two]
    exact Nat.log_mono_right h
  rw [exponentOf]
  apply max_lt (by decide)
  split <;> omega

theorem mul_zpow_le_one (hexponent : exponent < 0) (h : mantissa ≤ 2 ^ (-exponent).toNat) :
    (mantissa : ℚ) * 2 ^ exponent ≤ 1 := by
  have hpower : (2 : ℚ) ^ exponent = (2 ^ (-exponent).toNat)⁻¹ := by
    rw [← zpow_natCast, Int.toNat_of_nonneg (by omega), zpow_neg, inv_inv]
  have hpos : (0 : ℚ) < 2 ^ (-exponent).toNat := pow_pos (by decide) _
  rw [hpower, ← div_eq_mul_inv, div_le_one hpos]
  exact_mod_cast h

/-- A mantissa of 54 bits is that of the next exponent. -/
theorem value_carry (negative : Bool) (exponent : Int) :
    (finite negative (Nat.pow 2 52) (exponent + 1)).value
      = (finite negative (Nat.pow 2 53) exponent).value := by
  have hpower : (2 : ℚ) ^ (exponent + 1) = 2 ^ exponent * 2 := zpow_add_one₀ (by decide) exponent
  cases negative <;> simp [value, hpower] <;> ring

theorem ofRatio_of_le (hden : 0 < den) (h : num ≤ den) :
    (ofRatio false num den).IsFinite ∧ (ofRatio false num den).value ≤ 1 := by
  have hneg := exponentOf_neg h
  have hscaled : scaled num den (exponentOf num den)
      = (num * 2 ^ (-exponentOf num den).toNat, den) := by
    rw [scaled, if_neg (by omega)]
    rfl
  have hmantissa : roundHalfEven (num * 2 ^ (-exponentOf num den).toNat) den
      ≤ 2 ^ (-exponentOf num den).toNat := by
    apply roundHalfEven_le hden
    rw [Nat.mul_comm]
    exact Nat.mul_le_mul_left _ h
  have hone := mul_zpow_le_one hneg hmantissa
  rw [ofRatio]
  split
  · exact ⟨trivial, by simp [value]⟩
  · simp only [hscaled]
    generalize roundHalfEven _ den = mantissa at hone
    by_cases hcarry : mantissa = Nat.pow 2 53
    · have hsmall : ¬maxExponent < exponentOf num den + 1 := by
        rw [maxExponent]
        omega
      rw [if_pos hcarry, if_neg hsmall, value_carry, ← hcarry]
      exact ⟨trivial, hone⟩
    · have hsmall : ¬maxExponent < exponentOf num den := by
        rw [maxExponent]
        omega
      rw [if_neg hcarry, if_neg hsmall]
      exact ⟨trivial, hone⟩

/-! ### One minus a quotient -/

theorem ofInt_one : ofInt 1 = finite false (Nat.pow 2 52) (-52) := by decide

theorem isFinite_ofInt_one : (ofInt 1).IsFinite := by
  rw [ofInt_one]
  trivial

theorem value_ofInt_one : (ofInt 1).value = 1 := by
  rw [ofInt_one]
  norm_num [value]

theorem ofRatio_cases (negative : Bool) (num den : Nat) :
    (∃ mantissa exponent, ofRatio negative num den = finite negative mantissa exponent) ∨
      ofRatio negative num den = infinite negative := by
  rw [ofRatio]
  split
  · exact .inl ⟨_, _, rfl⟩
  · dsimp only
    generalize (if roundHalfEven _ _ = Nat.pow 2 53 then (_ : Nat × Int) else _) = packed
    by_cases hlarge : maxExponent < packed.2
    · exact .inr (if_pos hlarge)
    · exact .inl ⟨packed.1, packed.2, if_neg hlarge⟩

theorem not_zero_lt_ofRatio_true (num den : Nat) : zero.lt (ofRatio true num den) = false := by
  rcases ofRatio_cases true num den with ⟨mantissa, exponent, hfinite⟩ | hinfinite
  · rw [hfinite]
    simp [zero, lt, signedAt]
  · rw [hinfinite]
    rfl

theorem signedAt_one (h : lower ≤ -52) :
    signedAt lower false (Nat.pow 2 52) (-52) = (2 ^ (-lower).toNat : Nat) := by
  have hpower : 2 ^ 52 * 2 ^ (-52 - lower).toNat = 2 ^ (-lower).toNat := by
    rw [← Nat.pow_add]
    congr 1
    omega
  exact congrArg Nat.cast hpower

/-- One minus a quotient is no number above one, and below zero no threshold. -/
theorem one_sub_ofRatio {num den : Nat} (hpos : zero.lt ((ofInt 1).sub (ofRatio false num den))) :
    ((ofInt 1).sub (ofRatio false num den)).IsFinite ∧
      ((ofInt 1).sub (ofRatio false num den)).value ≤ 1 := by
  rcases ofRatio_cases false num den with ⟨mantissa, exponent, hfinite⟩ | hinfinite
  · have hone := signedAt_one (Int.min_le_left (-52) exponent)
    have hlower : min (-52) exponent < 0 := by omega
    have hnonneg : 0 ≤ signedAt (min (-52) exponent) false mantissa exponent := by
      rw [signedAt]
      exact Int.natCast_nonneg _
    rw [hfinite, ofInt_one, sub] at hpos ⊢
    simp only [hone] at hpos ⊢
    generalize signedAt (min (-52) exponent) false mantissa exponent = taken at hnonneg hpos ⊢
    generalize min (-52) exponent = lower at hlower hpos ⊢
    rw [ofScaled, ratio, if_neg (by omega)] at hpos ⊢
    by_cases hsign : ((2 ^ (-lower).toNat : Nat) : Int) - taken < 0
    · simp only [decide_eq_true hsign, not_zero_lt_ofRatio_true] at hpos
      exact absurd hpos Bool.false_ne_true
    · simp only [decide_eq_false hsign]
      apply ofRatio_of_le (Nat.pow_pos (by decide))
      show (((2 ^ (-lower).toNat : Nat) : Int) - taken).natAbs ≤ 2 ^ (-lower).toNat
      omega
  · rw [hinfinite, ofInt_one] at hpos
    exact absurd hpos (by decide)

end NoteSearch.Binary64
