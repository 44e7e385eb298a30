import LintPlan.MemorySize
import LintPlan.Proofs.Number.Rounding
import LintPlan.Proofs.Text.ReadingBack
import Mathlib.Data.Nat.Cast.Field
import Mathlib.Data.Nat.Digits.Defs

/-!
# Sizes that are read back

A size in megabytes is written as whole gigabytes where that is possible. It is read as a number of 64 bits and then scaled,
and nothing is rounded on the way as long as the size has 53 bits at most.

* **`ofRatio_exact`**, **`mul_exact`** — quotients and products that come to a whole number below `2 ^ 53` are exact.
* **`parts?_numeral`** — a numeral with a unit behind it is taken apart.
* **`parse?_render`** — so a size is read back; by `sizes_read_back` the container engine is told the same.
-/

namespace LintPlan

/-! ## §1 — whole numbers

Below 2 ^ 53 whole numbers are floats, so sizes are multiplied without rounding. -/

namespace Binary64

variable {num den n : Nat} {exponent : Int} {x y : Binary64} {a b : ℚ}

theorem roundHalfEven_of_dvd (hden : 0 < den) (h : den ∣ num) : roundHalfEven num den = num / den := by
  have hrest : num % den = 0 := Nat.mod_eq_zero_of_dvd h
  simp [roundHalfEven, hrest, hden]

/-- A whole number that is scaled to more places is a whole number. -/
theorem scaled_snd_dvd (h : den ∣ num) (hexponent : exponent ≤ 0) :
    (scaled num den exponent).2 ∣ (scaled num den exponent).1 := by
  unfold scaled
  split
  · exact Dvd.dvd.mul_right h _
  · obtain rfl : exponent = 0 := by omega
    simpa using h

/-- A scaled quotient that is whole keeps its value, as rounding leaves it alone. -/
theorem magnitude_roundHalfEven_scaled (hden : 0 < den)
    (hwhole : (scaled num den exponent).2 ∣ (scaled num den exponent).1) :
    magnitude (roundHalfEven (scaled num den exponent).1 (scaled num den exponent).2) exponent = num / den := by
  have hpow : (0 : ℚ) < 2 ^ exponent := by positivity
  rw [roundHalfEven_of_dvd (scaled_snd_pos num hden exponent) hwhole, magnitude, Nat.cast_div_charZero hwhole,
    scaled_div num hden, div_mul_cancel₀ _ hpow.ne']

/-- The first place of a whole number with 53 bits at most. -/
theorem binaryOrder_of_whole (hpos : 0 < n) (hn : n < 2 ^ 53) (hden : 0 < den) (hquotient : (num : ℚ) / den = n) :
    0 ≤ binaryOrder num den ∧ binaryOrder num den < 53 := by
  have hsome : (1 : ℚ) ≤ n := by exact_mod_cast hpos
  have hfew : (n : ℚ) < 2 ^ (53 : ℤ) := by exact_mod_cast hn
  have hnum : 0 < num := by
    rcases Nat.eq_zero_or_pos num with rfl | h
    · have hzero : (n : ℚ) = 0 := by simpa using hquotient.symm
      exact absurd (by exact_mod_cast hzero) hpos.ne'
    · exact h
  obtain ⟨hlow, hhigh⟩ := binaryOrder_bounds hnum hden
  rw [hquotient] at hlow hhigh
  constructor
  · -- the order is compared with those of the two bounds
    have hlt : (2 : ℚ) ^ (0 : ℤ) < 2 ^ (binaryOrder num den + 1) := by
      rw [zpow_zero]
      exact hsome.trans_lt hhigh
    have := (zpow_lt_zpow_iff_right₀ one_lt_two).mp hlt
    omega
  · exact (zpow_lt_zpow_iff_right₀ one_lt_two).mp (hlow.trans_lt hfew)

/-- **A quotient that comes to a whole number with 53 bits at most is exact.** -/
theorem ofRatio_exact (hden : 0 < den) (hnum : num = n * den) (hn : n < 2 ^ 53) :
    (ofRatio false num den).IsWithin n n := by
  rcases Nat.eq_zero_or_pos n with rfl | hpos
  · rw [hnum, Nat.zero_mul]
    exact ⟨0, minExponent, by simp [ofRatio, zero], le_rfl, by simp [magnitude], by simp [magnitude]⟩
  have hden' : (den : ℚ) ≠ 0 := by exact_mod_cast hden.ne'
  have hquotient : (num : ℚ) / den = n := by rw [hnum, Nat.cast_mul, mul_div_cancel_right₀ _ hden']
  have hnum' : num ≠ 0 := by rw [hnum]; exact (Nat.mul_pos hpos hden).ne'
  obtain ⟨hlow, hhigh⟩ := binaryOrder_of_whole hpos hn hden hquotient
  have hexponent : exponentFor (binaryOrder num den) = binaryOrder num den - 52 := by
    unfold exponentFor minExponent
    omega
  -- the last of 53 places is worth one or less, so that the scaled quotient is whole
  have hunit : binaryOrder num den - 52 ≤ 0 := by omega
  have hwhole := scaled_snd_dvd ⟨n, hnum.trans (Nat.mul_comm n den)⟩ hunit
  have hmin : minExponent ≤ binaryOrder num den - 52 := by unfold minExponent; omega
  have hmax : binaryOrder num den - 52 + 1 ≤ maxExponent := by unfold maxExponent; omega
  have hrounded := normalized_isWithin hmin hmax (roundHalfEven (scaled num den (binaryOrder num den - 52)).1
    (scaled num den (binaryOrder num den - 52)).2)
  unfold ofRatio
  rw [if_neg hnum', hexponent]
  rwa [magnitude_roundHalfEven_scaled hden hwhole, hquotient] at hrounded

/-- A product of exact numbers that comes to a whole number with 53 bits at most is exact. -/
theorem mul_exact (hx : x.IsWithin a a) (hy : y.IsWithin b b) (hn : n < 2 ^ 53) (h : a * b = n) :
    (mul x y).IsWithin n n := by
  obtain ⟨m, e, rfl, -, ham, hma⟩ := hx
  obtain ⟨k, f, rfl, -, hbk, hkb⟩ := hy
  have hratios : ((ratio m e).1 * (ratio k f).1 : ℚ) / ((ratio m e).2 * (ratio k f).2) = n := by
    rw [mul_div_mul_comm, ratio_div, ratio_div, le_antisymm hma ham, le_antisymm hkb hbk, h]
  have hden : 0 < (ratio m e).2 * (ratio k f).2 := Nat.mul_pos (ratio_snd_pos m e) (ratio_snd_pos k f)
  refine ofRatio_exact hden ?_ hn
  have hden' : ((ratio m e).2 * (ratio k f).2 : ℚ) ≠ 0 := by exact_mod_cast hden.ne'
  rw [div_eq_iff hden'] at hratios
  exact_mod_cast hratios

/-- Digits are exact as long as their number has 53 bits at most. -/
theorem ofDecimal_exact (hn : n < 2 ^ 53) : (ofDecimal false n 0).IsWithin n n := by
  have hlength : (Nat.toDigits 10 n).length ≤ 16 := Nat.toDigits_length 10 n 16 (by decide) (by omega)
  have hround : ofDecimal false n 0 = ofRatio false n 1 := by
    unfold ofDecimal
    dsimp only
    by_cases hzero : n = 0
    · simp [hzero, ofRatio]
    · rw [if_neg (by simp [hzero]), if_neg (by omega), if_neg (by decide)]
      simp
  rw [hround]
  exact ofRatio_exact Nat.one_pos (Nat.mul_one n).symm hn

end Binary64

namespace MemorySize

variable {n factor megabytes : Nat} {unit : Char}

/-! ## §2 — sizes that are written

The two units that are written are read with a factor each. -/

/-- The units in which sizes are written cannot be taken for digits, for a point or for blanks. -/
theorem isUnitMark_of_written : ∀ unit ∈ ['G', 'M'],
    isUnitMark unit = true ∧ Text.isDecimal unit = false ∧ Text.isBlank unit = false ∧ unit ≠ '.' := by
  intro unit hunit
  obtain rfl | rfl : unit = 'G' ∨ unit = 'M' := by simpa using hunit
  · decide +kernel
  · decide +kernel

/-- **A numeral with a unit behind it** is taken apart at the unit. -/
theorem parts?_numeral (n : Nat) (hunit : unit ∈ ['G', 'M']) :
    parts? (Text.numeral n ++ [unit, 'B']) = some ⟨Text.numeral n, [], some unit⟩ := by
  obtain ⟨hmark, hdecimal, hblank, hpoint⟩ := isUnitMark_of_written unit hunit
  have hdigits : ∀ c ∈ Text.numeral n, Text.isDecimal c = true :=
    fun c hc => Text.isDecimal_of_isDigit (Text.isDigit_of_mem_numeral hc)
  have hne : Text.numeral n ≠ [] := Nat.toDigits_ne_nil
  -- a numeral has at least one digit, and no digit is a blank
  have hstart : Text.trimStart (Text.numeral n ++ [unit, 'B']) = Text.numeral n ++ [unit, 'B'] := by
    apply Text.trimStart_eq_self_iff.2
    intro c hc
    rw [List.head?_append_of_ne_nil _ hne] at hc
    exact Text.not_isBlank_of_isDigit (Text.isDigit_of_mem_numeral (List.mem_of_head? hc))
  have hrest : Text.trimStart [unit, 'B'] = [unit, 'B'] := Text.trimStart_eq_self_iff.2 (by simpa using hblank)
  have hend : isEnd ['B'] = true := by decide
  unfold parts?
  rw [hstart]
  dsimp only
  rw [Text.takeWhile_append_cons hdigits hdecimal, Text.dropWhile_append_cons hdigits hdecimal]
  simp [hne, hpoint, hrest, hmark, hend]

/-- **A whole number of a unit is read exactly**, as long as it comes to 53 bits at most. -/
theorem parse?_numeral (hunit : unit ∈ ['G', 'M']) (hfactor : factor? unit = some (factor, 1)) (hpos : 0 < factor)
    (hsmall : factor < 2 ^ 53) (hn : n * factor < 2 ^ 53) :
    parse? (String.ofList (Text.numeral n ++ [unit, 'B'])) = some (n * factor) := by
  have hamount : Parts.amount? ⟨Text.numeral n, [], some unit⟩ = some (Binary64.ofDecimal false n 0) := by
    have hdigits : (Text.numeral n).all Char.isDigit = true :=
      List.all_eq_true.2 fun _ hc => Text.isDigit_of_mem_numeral hc
    simp [Parts.amount?, hdigits, Text.digitsValue_numeral]
  have hfewer : n < 2 ^ 53 := (Nat.le_mul_of_pos_right n hpos).trans_lt hn
  have hscaled : scaledMegabytes (Binary64.ofDecimal false n 0) (factor, 1) = n * factor := by
    have hunits := Binary64.ofRatio_exact Nat.one_pos (Nat.mul_one factor).symm hsmall
    -- both factors and the product are exact, so nothing is rounded on the way
    have hproduct := Binary64.mul_exact (Binary64.ofDecimal_exact hfewer) hunits hn (Nat.cast_mul n factor).symm
    apply Binary64.toNatUpTo_eq hproduct
    · linarith
    · linarith
    · unfold Text.maxWord64
      omega
  rw [parse?, String.toList_ofList, parts?_numeral n hunit]
  show (Parts.amount? ⟨Text.numeral n, [], some unit⟩ >>= fun amount => (factor? unit).map (scaledMegabytes amount)) = _
  rw [hamount, hfactor, ← hscaled]
  rfl

/-- A size that was written is read back as the number of megabytes it was made from. Whole gigabytes are written as such, and
other sizes in megabytes. -/
theorem parse?_render (h : megabytes < 2 ^ 53) : parse? (render megabytes) = some megabytes := by
  unfold render
  split
  · next hwhole =>
    have hback : megabytes / 1024 * 1024 = megabytes := Nat.div_mul_cancel (Nat.dvd_of_mod_eq_zero hwhole.2)
    have hunit : factor? 'G' = some (1024, 1) := by decide
    rw [parse?_numeral (by decide) hunit (by decide) (by decide) (by omega), hback]
  · have hunit : factor? 'M' = some (1, 1) := by decide
    rw [parse?_numeral (by decide) hunit (by decide) (by decide) (by omega), Nat.mul_one]

/-- **A size below `2 ^ 53` is read back as it was written**, and the container engine is told the same number. -/
theorem sizes_read_back (megabytes : Nat) (h : megabytes < 2 ^ 53) :
    parse? (render megabytes) = some megabytes ∧
      engineLimit? (render megabytes) = some (toString megabytes ++ "m") := by
  refine ⟨parse?_render h, ?_⟩
  have hnumeral : toString megabytes ++ "m" = String.ofList (Text.numeral megabytes ++ ['m']) := String.ofList_append.symm
  rw [engineLimit?, parse?_render h, hnumeral, Option.map_some]

/-- The largest of these sizes is no whole number of gigabytes; the one before it that is, `8796093022207GB`, is read
back too. -/
theorem sizes_read_back_largest :
    9007199254740991 < 2 ^ 53 ∧ parse? (render 9007199254740991) = some 9007199254740991 ∧
      engineLimit? (render 9007199254740991) = some "9007199254740991m" ∧
      9007199254739968 < 2 ^ 53 ∧ parse? (render 9007199254739968) = some 9007199254739968 ∧
      engineLimit? (render 9007199254739968) = some "9007199254739968m" := by
  have hlargest : 9007199254740991 < 2 ^ 53 := by decide
  have hgigabytes : 9007199254739968 < 2 ^ 53 := by decide
  obtain ⟨hparse, hlimit⟩ := sizes_read_back 9007199254740991 hlargest
  obtain ⟨hparse', hlimit'⟩ := sizes_read_back 9007199254739968 hgigabytes
  exact ⟨hlargest, hparse, hlimit, hgigabytes, hparse', hlimit'⟩

/-- From there on numbers of 64 bits have gaps. -/
example : parse? (render (2 ^ 53 + 1)) = some (2 ^ 53) := by decide

end MemorySize

end LintPlan
