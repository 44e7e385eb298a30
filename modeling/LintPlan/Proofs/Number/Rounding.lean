import LintPlan.Number.Binary64
import Mathlib.Algebra.Order.Field.Power
import Mathlib.Data.Rat.Cast.Order
import Mathlib.Tactic.FieldSimp
import Mathlib.Tactic.GCongr
import Mathlib.Tactic.Linarith
import Mathlib.Tactic.NormNum
import Mathlib.Tactic.Positivity
import Mathlib.Tactic.Ring

/-!
# Rounding

A number of 64 bits stands for a quotient of integers up to half a unit in the last place. What is known of one rounding is
carried through products and quotients as a pair of bounds.

* **`binaryOrder_bounds`** — between which powers of two a quotient lies, so that its mantissa has 53 bits.
* **`ofRatio_isWithin`** — one rounding, relative to the quotient.
* **`mul_isWithin`**, **`div_isWithin`** — products and quotients of numbers between bounds.
* **`le_eq_false`**, **`toNatUpTo_eq`** — bounds that lie apart decide a comparison, and bounds around an integer decide
  to which one a number is rounded.
-/

namespace LintPlan.Binary64

/-! ## §1 — scaling

A fraction is scaled by a power of two so that its whole part has 53 bits, and that part is rounded. Values are taken as
rational numbers. -/

/-- The value of a number without its sign. -/
def magnitude (mantissa : Nat) (exponent : Int) : ℚ := mantissa * 2 ^ exponent

/-- The largest relative error of rounding, half a unit in the last of 53 places. -/
def roundoff : ℚ := 2 ^ (-53 : ℤ)

variable {num den mantissa : Nat} {exponent : Int}

theorem natPow_natAbs_of_nonneg (h : 0 ≤ exponent) : ((Nat.pow 2 exponent.natAbs : Nat) : ℚ) = 2 ^ exponent := by
  rw [Nat.pow_eq, Nat.cast_pow, Nat.cast_ofNat, ← zpow_natCast, Int.natAbs_of_nonneg h]

theorem natPow_natAbs_of_neg (h : exponent < 0) : ((Nat.pow 2 exponent.natAbs : Nat) : ℚ) = (2 ^ exponent)⁻¹ := by
  rw [Nat.pow_eq, Nat.cast_pow, Nat.cast_ofNat, ← zpow_natCast, Int.ofNat_natAbs_of_nonpos h.le, zpow_neg]

theorem scaled_snd_pos (num : Nat) (hden : 0 < den) (exponent : Int) : 0 < (scaled num den exponent).2 := by
  unfold scaled
  split
  · exact hden
  · exact Nat.mul_pos hden (Nat.pow_pos (by decide))

/-- The scaled quotient is the quotient over a power of two. -/
theorem scaled_div (num : Nat) (hden : 0 < den) (exponent : Int) :
    ((scaled num den exponent).1 : ℚ) / (scaled num den exponent).2 = num / den / 2 ^ exponent := by
  have hden' : (den : ℚ) ≠ 0 := by exact_mod_cast hden.ne'
  unfold scaled
  split
  · next h =>
    rw [Nat.cast_mul, natPow_natAbs_of_neg h]
    field_simp
  · next h =>
    rw [Nat.cast_mul, natPow_natAbs_of_nonneg (not_lt.mp h)]
    field_simp

/-- A quotient is rounded down if the rest is at most one half, and up if it is at least that. -/
theorem roundHalfEven_cases (num den : Nat) :
    roundHalfEven num den = num / den ∧ 2 * (num % den) ≤ den ∨
      roundHalfEven num den = num / den + 1 ∧ den ≤ 2 * (num % den) := by
  unfold roundHalfEven
  dsimp only
  split
  · exact .inl ⟨rfl, by omega⟩
  · split
    · exact .inr ⟨rfl, by omega⟩
    · split
      · exact .inl ⟨rfl, by omega⟩
      · exact .inr ⟨rfl, by omega⟩

/-- So rounding moves it by at most one half. -/
theorem abs_roundHalfEven_sub_le (num : Nat) (hden : 0 < den) : |(roundHalfEven num den : ℚ) - num / den| ≤ 1 / 2 := by
  have hden' : (0 : ℚ) < den := by exact_mod_cast hden
  have hdivision : (den : ℚ) * (num / den : Nat) + (num % den : Nat) = num := by exact_mod_cast Nat.div_add_mod num den
  have hrest : ((num % den : Nat) : ℚ) < den := by exact_mod_cast Nat.mod_lt num hden
  -- the quotient is its whole part and what the rest adds, which is less than one
  have hquotient : (num : ℚ) / den = (num / den : Nat) + (num % den : Nat) / den := by
    rw [← hdivision]
    field_simp
  rw [hquotient]
  rcases roundHalfEven_cases num den with ⟨hround, hhalf⟩ | ⟨hround, hhalf⟩
  · have hhalf' : ((num % den : Nat) : ℚ) / den ≤ 1 / 2 := by
      rw [div_le_iff₀ hden']
      have : (2 : ℚ) * (num % den : Nat) ≤ den := by exact_mod_cast hhalf
      linarith
    have hpos : (0 : ℚ) ≤ ((num % den : Nat) : ℚ) / den := by positivity
    rw [hround, abs_le]
    constructor <;> linarith
  · have hhalf' : (1 : ℚ) / 2 ≤ ((num % den : Nat) : ℚ) / den := by
      rw [le_div_iff₀ hden']
      have : (den : ℚ) ≤ 2 * (num % den : Nat) := by exact_mod_cast hhalf
      linarith
    have hlt : ((num % den : Nat) : ℚ) / den < 1 := (div_lt_one hden').mpr hrest
    rw [hround, abs_le, Nat.cast_add, Nat.cast_one]
    constructor <;> linarith

theorem log2_bounds {n : Nat} (hn : 0 < n) : (2 : ℚ) ^ (n.log2 : ℤ) ≤ n ∧ (n : ℚ) < 2 ^ ((n.log2 : ℤ) + 1) := by
  constructor
  · rw [zpow_natCast]
    exact_mod_cast Nat.log2_self_le hn.ne'
  · have h : n < 2 ^ (n.log2 + 1) := Nat.lt_log2_self
    have h' : (n : ℚ) < 2 ^ (n.log2 + 1) := by exact_mod_cast h
    rwa [← zpow_natCast, Nat.cast_add, Nat.cast_one] at h'

/-- Scaling compares a quotient with a power of two. -/
theorem scaled_snd_le_fst_iff (num : Nat) (hden : 0 < den) (exponent : Int) :
    (scaled num den exponent).2 ≤ (scaled num den exponent).1 ↔ (2 : ℚ) ^ exponent ≤ num / den := by
  have hpos : (0 : ℚ) < (scaled num den exponent).2 := by exact_mod_cast scaled_snd_pos num hden exponent
  have hle : (scaled num den exponent).2 ≤ (scaled num den exponent).1 ↔
      ((scaled num den exponent).2 : ℚ) ≤ (scaled num den exponent).1 := Nat.cast_le.symm
  rw [hle, ← one_le_div hpos, scaled_div num hden exponent, one_le_div (by positivity)]

/-- **The binary order** says between which powers of two a quotient lies. -/
theorem binaryOrder_bounds (hnum : 0 < num) (hden : 0 < den) :
    (2 : ℚ) ^ binaryOrder num den ≤ num / den ∧ (num : ℚ) / den < 2 ^ (binaryOrder num den + 1) := by
  have hden' : (0 : ℚ) < den := by exact_mod_cast hden
  obtain ⟨hnumLow, hnumHigh⟩ := log2_bounds hnum
  obtain ⟨hdenLow, hdenHigh⟩ := log2_bounds hden
  -- the estimate is at most one too large
  have hlow : (2 : ℚ) ^ ((num.log2 : ℤ) - den.log2 - 1) ≤ num / den := by
    rw [le_div_iff₀ hden']
    calc (2 : ℚ) ^ ((num.log2 : ℤ) - den.log2 - 1) * den
        ≤ 2 ^ ((num.log2 : ℤ) - den.log2 - 1) * 2 ^ ((den.log2 : ℤ) + 1) := by gcongr
      _ = 2 ^ (num.log2 : ℤ) := by
        rw [← zpow_add₀ two_ne_zero]
        congr 1
        omega
      _ ≤ num := hnumLow
  have hhigh : (num : ℚ) / den < 2 ^ ((num.log2 : ℤ) - den.log2 + 1) := by
    rw [div_lt_iff₀ hden']
    calc (num : ℚ) < 2 ^ ((num.log2 : ℤ) + 1) := hnumHigh
      _ = 2 ^ ((num.log2 : ℤ) - den.log2 + 1) * 2 ^ (den.log2 : ℤ) := by
        rw [← zpow_add₀ two_ne_zero]
        congr 1
        omega
      _ ≤ 2 ^ ((num.log2 : ℤ) - den.log2 + 1) * den := by gcongr
  unfold binaryOrder
  dsimp only
  split
  · next h => exact ⟨(scaled_snd_le_fst_iff num hden _).mp h, hhigh⟩
  · next h =>
    rw [scaled_snd_le_fst_iff num hden, not_le] at h
    rw [sub_add_cancel]
    exact ⟨hlow, h⟩

/-! ## §2 — one rounding

The relative error of a rounding is at most `roundoff`, as long as the result is not too small or large. -/

/-- A number that is not negative, between two bounds. -/
def IsWithin (x : Binary64) (low high : ℚ) : Prop :=
  ∃ mantissa exponent, x = .finite false mantissa exponent ∧ minExponent ≤ exponent ∧
    low ≤ magnitude mantissa exponent ∧ magnitude mantissa exponent ≤ high

/-- Carrying does not change the value. -/
theorem normalized_isWithin (hmin : minExponent ≤ exponent) (hmax : exponent + 1 ≤ maxExponent) (mantissa : Nat) :
    (normalized false mantissa exponent).IsWithin (magnitude mantissa exponent) (magnitude mantissa exponent) := by
  unfold normalized
  dsimp only
  by_cases hcarried : mantissa = 9007199254740992
  · have hvalue : magnitude 4503599627370496 (exponent + 1) = magnitude mantissa exponent := by
      rw [magnitude, magnitude, hcarried, zpow_add_one₀ two_ne_zero]
      push_cast
      ring
    rw [if_pos hcarried, if_neg (not_lt.mpr hmax), if_pos hcarried]
    exact ⟨_, _, rfl, by omega, hvalue.ge, hvalue.le⟩
  · rw [if_neg hcarried, if_neg (by omega), if_neg hcarried]
    exact ⟨_, _, rfl, hmin, le_rfl, le_rfl⟩

/-- The size of a number that the format has with all its places. -/
structure IsNormal (q : ℚ) : Prop where
  low : 2 ^ (-1022 : ℤ) ≤ q
  high : q < 2 ^ (1023 : ℤ)

/-- A thirtieth power of ten either way is far within the format. -/
theorem isNormal_of_le {q : ℚ} (hlow : 1 / 10 ^ 30 ≤ q) (hhigh : q ≤ 10 ^ 30) : IsNormal q where
  low := by
    calc (2 : ℚ) ^ (-1022 : ℤ) ≤ 2 ^ (-100 : ℤ) := zpow_le_zpow_right₀ one_le_two (by decide)
      _ ≤ 1 / 10 ^ 30 := by norm_num
      _ ≤ q := hlow
  high := by
    calc q ≤ 10 ^ 30 := hhigh
      _ < 2 ^ (100 : ℤ) := by norm_num
      _ ≤ 2 ^ (1023 : ℤ) := zpow_le_zpow_right₀ one_le_two (by decide)

/-- **Rounding a quotient** changes it by half a unit in the last place at most. -/
theorem ofRatio_isWithin (num : Nat) (hden : 0 < den) (hnormal : IsNormal (num / den)) :
    (ofRatio false num den).IsWithin (num / den * (1 - roundoff)) (num / den * (1 + roundoff)) := by
  obtain ⟨hlow, hhigh⟩ := hnormal
  have hnum : 0 < num := by
    rcases Nat.eq_zero_or_pos num with rfl | h
    · rw [Nat.cast_zero, zero_div] at hlow
      exact absurd hlow (not_le.mpr (by positivity))
    · exact h
  obtain ⟨horderLow, horderHigh⟩ := binaryOrder_bounds hnum hden
  have hmin : -1022 < binaryOrder num den + 1 := (zpow_lt_zpow_iff_right₀ one_lt_two).mp (hlow.trans_lt horderHigh)
  have hmax : binaryOrder num den < 1023 := (zpow_lt_zpow_iff_right₀ one_lt_two).mp (horderLow.trans_lt hhigh)
  have hexponent : exponentFor (binaryOrder num den) = binaryOrder num den - 52 := by
    unfold exponentFor minExponent
    omega
  have hpow : (0 : ℚ) < 2 ^ (binaryOrder num den - 52) := by positivity
  -- the mantissa is the scaled quotient up to a half, so the value is the quotient up to half of the last place
  have hround := abs_roundHalfEven_sub_le (scaled num den (binaryOrder num den - 52)).1
    (scaled_snd_pos num hden (binaryOrder num den - 52))
  rw [scaled_div num hden, abs_le] at hround
  have hhalf : (2 : ℚ) ^ (binaryOrder num den - 52) / 2 ≤ num / den * roundoff := by
    calc (2 : ℚ) ^ (binaryOrder num den - 52) / 2 = 2 ^ binaryOrder num den * roundoff := by
          rw [roundoff, ← zpow_add₀ two_ne_zero, div_eq_mul_inv, ← zpow_sub_one₀ two_ne_zero]
          congr 1
          omega
      _ ≤ num / den * roundoff := by
          gcongr
          rw [roundoff]
          positivity
  unfold ofRatio
  rw [if_neg hnum.ne', hexponent]
  dsimp only
  have hmin' : minExponent ≤ binaryOrder num den - 52 := by
    unfold minExponent
    omega
  have hmax' : binaryOrder num den - 52 + 1 ≤ maxExponent := by
    unfold maxExponent
    omega
  obtain ⟨m, e, hx, he, hlow', hhigh'⟩ := normalized_isWithin hmin' hmax'
    (roundHalfEven (scaled num den (binaryOrder num den - 52)).1 (scaled num den (binaryOrder num den - 52)).2)
  refine ⟨m, e, hx, he, le_trans ?_ hlow', le_trans hhigh' ?_⟩
  · have := mul_le_mul_of_nonneg_right hround.1 hpow.le
    rw [sub_mul, div_mul_cancel₀ _ hpow.ne', ← magnitude] at this
    linarith
  · have := mul_le_mul_of_nonneg_right hround.2 hpow.le
    rw [sub_mul, div_mul_cancel₀ _ hpow.ne', ← magnitude] at this
    linarith

/-! ## §3 — arithmetic

Operations are exact up to one rounding of the result. So bounds are carried through an expression by one lemma for each
operation. -/

variable {x y : Binary64} {a b c d : ℚ}

theorem ratio_snd_pos (mantissa : Nat) (exponent : Int) : 0 < (ratio mantissa exponent).2 := by
  unfold ratio
  split
  · exact Nat.pow_pos (by decide)
  · exact Nat.one_pos

theorem ratio_div (mantissa : Nat) (exponent : Int) :
    ((ratio mantissa exponent).1 : ℚ) / (ratio mantissa exponent).2 = magnitude mantissa exponent := by
  unfold ratio magnitude
  split
  · next h => rw [natPow_natAbs_of_neg h, div_inv_eq_mul]
  · next h => rw [Nat.cast_mul, natPow_natAbs_of_nonneg (not_lt.mp h), Nat.cast_one, div_one]

theorem ratio_fst_pos (h : 0 < magnitude mantissa exponent) : 0 < (ratio mantissa exponent).1 := by
  rw [← ratio_div] at h
  exact_mod_cast (div_pos_iff_of_pos_right (Nat.cast_pos.mpr (ratio_snd_pos mantissa exponent))).mp h

theorem roundoff_pos : 0 < roundoff := by
  rw [roundoff]
  positivity

theorem roundoff_lt_one : roundoff < 1 := by
  rw [roundoff]
  norm_num

theorem IsWithin.mono (h : x.IsWithin b c) (hlow : a ≤ b) (hhigh : c ≤ d) : x.IsWithin a d := by
  obtain ⟨m, e, hx, he, hb, hc⟩ := h
  exact ⟨m, e, hx, he, hlow.trans hb, hc.trans hhigh⟩

theorem IsNormal.of_le_of_le {q low high : ℚ} (hlow : IsNormal low) (hhigh : IsNormal high) (h : low ≤ q) (h' : q ≤ high) :
    IsNormal q := ⟨hlow.low.trans h, h'.trans_lt hhigh.high⟩

theorem ofNat_isWithin {n : Nat} (hnormal : IsNormal n) : (ofNat n).IsWithin (n * (1 - roundoff)) (n * (1 + roundoff)) := by
  have h := ofRatio_isWithin n Nat.one_pos (by rwa [Nat.cast_one, div_one])
  rwa [Nat.cast_one, div_one] at h

/-- A product has the bounds of its factors and one rounding. -/
theorem mul_isWithin (hx : x.IsWithin a b) (hy : y.IsWithin c d) (ha : 0 ≤ a) (hc : 0 ≤ c) (hlow : IsNormal (a * c))
    (hhigh : IsNormal (b * d)) : (mul x y).IsWithin (a * c * (1 - roundoff)) (b * d * (1 + roundoff)) := by
  obtain ⟨m, e, rfl, -, ham, hmb⟩ := hx
  obtain ⟨n, f, rfl, -, hcn, hnd⟩ := hy
  have hquotient : (((ratio m e).1 * (ratio n f).1 : Nat) : ℚ) / ((ratio m e).2 * (ratio n f).2 : Nat) =
      magnitude m e * magnitude n f := by
    rw [Nat.cast_mul, Nat.cast_mul, mul_div_mul_comm, ratio_div, ratio_div]
  have hge : a * c ≤ magnitude m e * magnitude n f := mul_le_mul ham hcn hc (ha.trans ham)
  have hle : magnitude m e * magnitude n f ≤ b * d :=
    mul_le_mul hmb hnd (hc.trans hcn) ((ha.trans ham).trans hmb)
  have hrounded := ofRatio_isWithin ((ratio m e).1 * (ratio n f).1)
    (Nat.mul_pos (ratio_snd_pos m e) (ratio_snd_pos n f)) (hquotient ▸ hlow.of_le_of_le hhigh hge hle)
  rw [hquotient] at hrounded
  exact hrounded.mono (mul_le_mul_of_nonneg_right hge (sub_nonneg.mpr roundoff_lt_one.le))
    (mul_le_mul_of_nonneg_right hle (by linarith [roundoff_pos]))

/-- A quotient is largest for the largest numerator and the smallest denominator, and it is rounded once. -/
theorem div_isWithin (hx : x.IsWithin a b) (hy : y.IsWithin c d) (ha : 0 ≤ a) (hc : 0 < c) (hlow : IsNormal (a / d))
    (hhigh : IsNormal (b / c)) : (div x y).IsWithin (a / d * (1 - roundoff)) (b / c * (1 + roundoff)) := by
  obtain ⟨m, e, rfl, -, ham, hmb⟩ := hx
  obtain ⟨n, f, rfl, -, hcn, hnd⟩ := hy
  have hn : (0 : ℚ) < magnitude n f := hc.trans_le hcn
  have hden : 0 < (ratio n f).1 := ratio_fst_pos hn
  have hquotient : (((ratio m e).1 * (ratio n f).2 : Nat) : ℚ) / ((ratio m e).2 * (ratio n f).1 : Nat) =
      magnitude m e / magnitude n f := by
    rw [Nat.cast_mul, Nat.cast_mul, mul_div_mul_comm, ratio_div, ← ratio_div n f, div_eq_mul_inv (magnitude m e), inv_div]
  -- the bounds of the exact quotient, before it is rounded
  have hge : a / d ≤ magnitude m e / magnitude n f := div_le_div₀ (ha.trans ham) ham hn hnd
  have hle : magnitude m e / magnitude n f ≤ b / c := div_le_div₀ ((ha.trans ham).trans hmb) hmb hc hcn
  have hrounded := ofRatio_isWithin ((ratio m e).1 * (ratio n f).2)
    (Nat.mul_pos (ratio_snd_pos m e) hden) (hquotient ▸ hlow.of_le_of_le hhigh hge hle)
  rw [hquotient] at hrounded
  unfold div
  dsimp only
  rw [if_neg hden.ne']
  exact hrounded.mono (mul_le_mul_of_nonneg_right hge (sub_nonneg.mpr roundoff_lt_one.le))
    (mul_le_mul_of_nonneg_right hle (by linarith [roundoff_pos]))

theorem zero_div (hy : y.IsWithin c d) (hc : 0 < c) : div (zero false) y = zero false := by
  obtain ⟨n, f, rfl, -, hcn, -⟩ := hy
  have hnum : (ratio 0 minExponent).1 * (ratio n f).2 = 0 := Nat.zero_mul _
  unfold zero div
  dsimp only
  rw [if_neg (ratio_fst_pos (hc.trans_le hcn)).ne', hnum]
  rfl

theorem units_eq (hmin : minExponent ≤ exponent) (mantissa : Nat) :
    ((units false mantissa exponent : ℤ) : ℚ) = magnitude mantissa exponent / 2 ^ minExponent := by
  have hexponent : ((exponent - minExponent).toNat : ℤ) = exponent - minExponent := Int.toNat_of_nonneg (by omega)
  rw [units, if_neg Bool.false_ne_true, magnitude, Int.cast_natCast, Nat.cast_mul, Nat.pow_eq, Nat.cast_pow, Nat.cast_ofNat,
    ← zpow_natCast, hexponent, zpow_sub₀ two_ne_zero, mul_div_assoc]

/-- Numbers that lie apart compare like their bounds. -/
theorem le_eq_false (hx : x.IsWithin a b) (hy : y.IsWithin c d) (h : d < a) : le x y = false := by
  obtain ⟨m, e, rfl, he, ham, -⟩ := hx
  obtain ⟨n, f, rfl, hf, -, hnd⟩ := hy
  have hpow : (0 : ℚ) < 2 ^ minExponent := by positivity
  refine decide_eq_false (not_le.mpr ?_)
  rw [← Int.cast_lt (R := ℚ), units_eq he, units_eq hf, div_lt_div_iff_of_pos_right hpow]
  exact (hnd.trans_lt h).trans_le ham

/-- A number is rounded to the integer that is nearer than a half. -/
theorem toNatUpTo_eq {limit n : Nat} (hx : x.IsWithin a b) (hlow : (n : ℚ) - 1 / 2 < a) (hhigh : b < n + 1 / 2)
    (hn : n ≤ limit) : toNatUpTo limit x = n := by
  obtain ⟨m, e, rfl, -, ham, hmb⟩ := hx
  have hden : (0 : ℚ) < (ratio m e).2 := by exact_mod_cast ratio_snd_pos m e
  have hvalue := ratio_div m e
  rw [div_eq_iff hden.ne'] at hvalue
  have hround : roundHalfUp (ratio m e).1 (ratio m e).2 = n := by
    unfold roundHalfUp
    rw [Nat.div_eq_iff (Nat.mul_pos two_pos (ratio_snd_pos m e))]
    -- half up rounds to the number whose half-open interval the value lies in
    have hbelow : ((n : ℚ) - 1 / 2) * (ratio m e).2 < (ratio m e).1 := by
      rw [hvalue]
      exact mul_lt_mul_of_pos_right (hlow.trans_le ham) hden
    have habove : ((ratio m e).1 : ℚ) < (n + 1 / 2) * (ratio m e).2 := by
      rw [hvalue]
      exact mul_lt_mul_of_pos_right (hmb.trans_lt hhigh) hden
    have hbelow' : (n : ℚ) * (2 * (ratio m e).2) ≤ 2 * (ratio m e).1 + (ratio m e).2 := by linarith
    have habove' : (2 : ℚ) * (ratio m e).1 + (ratio m e).2 < n * (2 * (ratio m e).2) + 2 * (ratio m e).2 := by linarith
    exact ⟨by exact_mod_cast hbelow', Nat.le_sub_one_of_lt (by exact_mod_cast habove')⟩
  unfold toNatUpTo
  dsimp only
  rw [if_neg Bool.false_ne_true, hround, min_eq_right hn]

end LintPlan.Binary64
