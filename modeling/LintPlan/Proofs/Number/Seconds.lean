import LintPlan.Proofs.Number.Rounding
import LintPlan.Proofs.Text.ReadingBack
import LintPlan.Report.EmbeddedReport
import Mathlib.Data.List.TakeWhile
import Mathlib.Data.Nat.Digits.Defs

/-!
# Seconds that are read back

A time is written in seconds with two digits behind the point, and read as milliseconds. It is rounded twice on the way, as
a quotient and as a product, and comes out exact.

* **`readUnsigned_append_point`** — digits on both sides of a point are read as their decimal.
* **`mul_thousand_isWithin`** — what two roundings do to it.
* **`read_secondsText`** — so a number of hundredths is read as ten times as many milliseconds.
-/

namespace LintPlan

/-! ## §1 — digits

Facts on ten characters, found by trying them. -/

namespace Text

theorem isDigit_digitChar : ∀ n < 10, (Nat.digitChar n).isDigit = true ∧ (Nat.digitChar n).toNat - 48 = n := by
  decide

theorem exists_digitChar {c : Char} (h : c.isDigit = true) : ∃ n < 10, c = Nat.digitChar n := by
  obtain ⟨hlow, hhigh⟩ : 48 ≤ c.toNat ∧ c.toNat ≤ 57 := Char.isDigit_iff_toNat.1 h
  refine ⟨c.toNat - 48, by omega, ?_⟩
  have hof : ∀ n < 10, Char.ofNat (n + 48) = Nat.digitChar n := by decide
  rw [← hof _ (by omega), Nat.sub_add_cancel hlow, Char.ofNat_toNat]

/-- What holds of the ten digits holds of every character of a numeral. -/
theorem forall_mem_numeral {P : Char → Prop} (h : ∀ n < 10, P (Nat.digitChar n)) (m : Nat) : ∀ c ∈ numeral m, P c := by
  intro c hc
  obtain ⟨n, hn, rfl⟩ := exists_digitChar (isDigit_of_mem_numeral hc)
  exact h n hn

theorem padded_two : ∀ n < 100, padded 2 n = [Nat.digitChar (n / 10), Nat.digitChar (n % 10)] := by
  decide

theorem isDigit_of_mem_padded_two {c : Char} {n : Nat} (hn : n < 100) (h : c ∈ padded 2 n) : c.isDigit = true := by
  rw [padded_two n hn, List.mem_cons, List.mem_singleton] at h
  rcases h with rfl | rfl
  · exact (isDigit_digitChar (n / 10) (by omega)).1
  · exact (isDigit_digitChar (n % 10) (by omega)).1

/-- Two more digits are two more places. -/
theorem digitsValue_numeral_append {m n : Nat} (hn : n < 100) : digitsValue (numeral m ++ padded 2 n) = 100 * m + n := by
  have hm := digitsValue_numeral m
  unfold digitsValue at hm ⊢
  rw [List.foldl_append, hm, padded_two n hn, List.foldl_cons, List.foldl_cons, List.foldl_nil,
    (isDigit_digitChar (n / 10) (by omega)).2, (isDigit_digitChar (n % 10) (by omega)).2]
  omega

end Text

/-! ## §2 — decimals

How a printed number is read as a float. -/

namespace Binary64

variable {whole fraction : List Char} {c : Char}

/-- What begins with a digit is neither a word nor has it a sign. -/
theorem read_cons_of_isDigit (h : c.isDigit = true) (rest : List Char) :
    read (c :: rest) = readUnsigned false (c :: rest) := by
  obtain ⟨n, hn, rfl⟩ := Text.exists_digitChar h
  have hsign : ∀ n < 10, Nat.digitChar n ≠ '-' ∧ Nat.digitChar n ≠ '+' := by decide
  have hletter : ∀ n < 10, (Nat.digitChar n).toLower ≠ 'i' ∧ (Nat.digitChar n).toLower ≠ 'n' := by decide
  -- a word would need its own first letter
  have hword (x : Char) (more : List Char) (hx : (Nat.digitChar n).toLower ≠ x) :
      (String.ofList ((Nat.digitChar n :: rest).map Char.toLower) == String.ofList (x :: more)) = false := by
    refine beq_eq_false_iff_ne.mpr fun heq => hx ?_
    exact (List.cons.inj (String.ofList_injective heq)).1
  have hnegative : ((Nat.digitChar n :: rest).head? == some '-') = false :=
    beq_eq_false_iff_ne.mpr fun heq => (hsign n hn).1 (Option.some.inj heq)
  have hinf := hword 'i' ['n', 'f'] (hletter n hn).1
  have hinfinity := hword 'i' ['n', 'f', 'i', 'n', 'i', 't', 'y'] (hletter n hn).1
  have hnan := hword 'n' ['a', 'n'] (hletter n hn).2
  unfold read
  rw [hnegative]
  split
  · next heq => exact absurd (List.cons.inj heq).1 (hsign n hn).1
  · next heq => exact absurd (List.cons.inj heq).1 (hsign n hn).2
  · dsimp only
    rw [if_neg, if_neg]
    · exact Bool.eq_false_iff.mp hnan
    · exact Bool.eq_false_iff.mp (Bool.or_eq_false_iff.mpr ⟨hinf, hinfinity⟩)

/-- Digits, a point and digits are read as the number of all digits over a power of ten. -/
theorem readUnsigned_append_point (hne : whole ≠ []) (hwhole : ∀ c ∈ whole, c.isDigit = true)
    (hfraction : ∀ c ∈ fraction, c.isDigit = true) (negative : Bool) :
    readUnsigned negative (whole ++ '.' :: fraction) =
      some (ofDecimal negative (Text.digitsValue (whole ++ fraction)) (-fraction.length)) := by
  have htake : fraction.takeWhile Char.isDigit = fraction := List.takeWhile_eq_self_iff.mpr hfraction
  have hdrop : fraction.dropWhile Char.isDigit = [] := List.dropWhile_eq_nil_iff.mpr hfraction
  have hnonempty : whole.isEmpty = false := List.isEmpty_eq_false_iff.mpr hne
  unfold readUnsigned
  rw [Text.takeWhile_append_cons hwhole (by decide), Text.dropWhile_append_cons hwhole (by decide)]
  show (if (whole.isEmpty && (fraction.takeWhile Char.isDigit).isEmpty) = true then none
    else (readExponent (fraction.dropWhile Char.isDigit)).map fun e =>
      ofDecimal negative (Text.digitsValue (whole ++ fraction.takeWhile Char.isDigit))
        (e - (fraction.takeWhile Char.isDigit).length)) = _
  rw [htake, hdrop, hnonempty, Bool.false_and, if_neg Bool.false_ne_true, readExponent, Option.map_some, Int.zero_sub]

/-- With few digits, a decimal is rounded as the quotient that it is. -/
theorem ofDecimal_hundredths {digits : Nat} (h : digits < 2 ^ 32) :
    ofDecimal false digits (-2) = ofRatio false digits 100 := by
  have hlength : (Nat.toDigits 10 digits).length ≤ 10 := Nat.toDigits_length 10 digits 10 (by decide) (by omega)
  unfold ofDecimal
  dsimp only
  by_cases hzero : digits = 0
  · rw [hzero]
    rfl
  · rw [if_neg, if_neg (by omega), if_pos (by decide)]
    · rfl
    · rw [Bool.or_eq_true, decide_eq_true_iff, decide_eq_true_iff]
      omega

/-- A thousand times a number of hundredths is rounded to ten times as many. -/
theorem mul_thousand_isWithin {digits : Nat} (hpos : 0 < digits) (h : digits < 2 ^ 32) :
    (mul (ofRatio false digits 100) (ofNat 1000)).IsWithin (10 * digits - 1 / 4) (10 * digits + 1 / 4) := by
  have hone : (1 : ℚ) ≤ digits := by exact_mod_cast hpos
  have hmany : (digits : ℚ) ≤ 4294967296 := by exact_mod_cast h.le
  have hroundoff : 0 < roundoff ∧ roundoff ≤ 1 / 10 ^ 15 := ⟨roundoff_pos, by rw [roundoff]; norm_num⟩
  have hhundred : 0 < 100 := by decide
  have hseconds := ofRatio_isWithin digits hhundred (isNormal_of_le (by push_cast; linarith) (by push_cast; linarith))
  have hthousand : (ofNat 1000).IsWithin (1000 * (1 - 1 / 10 ^ 15)) (1000 * (1 + 1 / 10 ^ 15)) := by
    have hrounded := @ofNat_isWithin 1000 (isNormal_of_le (by norm_num) (by norm_num))
    push_cast at hrounded
    exact hrounded.mono (by linarith) (by linarith)
  push_cast at hseconds
  have hseconds' : (ofRatio false digits 100).IsWithin (digits / 100 * (1 - 1 / 10 ^ 15)) (digits / 100 * (1 + 1 / 10 ^ 15)) :=
    hseconds.mono (by gcongr; exact hroundoff.2) (by gcongr; exact hroundoff.2)
  -- each rounding by 1 / 10 ^ 15 at most, which is less than an eighth for numbers of this size
  have hlow : (10 * digits - 1 / 8 : ℚ) ≤ digits / 100 * (1 - 1 / 10 ^ 15) * (1000 * (1 - 1 / 10 ^ 15)) := by linarith
  have hhigh : (digits / 100 * (1 + 1 / 10 ^ 15) * (1000 * (1 + 1 / 10 ^ 15)) : ℚ) ≤ 10 * digits + 1 / 8 := by linarith
  have hsmall : (10 * digits + 1 / 8) * roundoff ≤ 1 / 8 := by
    calc (10 * digits + 1 / 8) * roundoff ≤ 10 ^ 12 * (1 / 10 ^ 15) :=
          mul_le_mul (by linarith) hroundoff.2 hroundoff.1.le (by norm_num)
      _ ≤ 1 / 8 := by norm_num
  refine (mul_isWithin hseconds' hthousand (by linarith) (by norm_num) (isNormal_of_le (by linarith) (by linarith))
    (isNormal_of_le (by linarith) (by linarith))).mono ?_ ?_
  · calc (10 * digits - 1 / 4 : ℚ) ≤ (10 * digits - 1 / 8) * (1 - roundoff) := by linarith
      _ ≤ _ := mul_le_mul_of_nonneg_right hlow (by linarith)
  · calc _ ≤ (10 * digits + 1 / 8) * (1 + roundoff) := mul_le_mul_of_nonneg_right hhigh (by linarith)
      _ ≤ (10 * digits + 1 / 4 : ℚ) := by linarith

end Binary64

/-! ## §3 — times

Times are printed in hundredths of a second and kept in milliseconds. -/

namespace Duration

variable {hundredths : Nat}

/-- So they are rounded to the exact number of milliseconds. -/
theorem milliseconds_ofRatio (h : hundredths < 2 ^ 32) : milliseconds (.ofRatio false hundredths 100) = 10 * hundredths := by
  rcases Nat.eq_zero_or_pos hundredths with rfl | hpos
  · decide +kernel
  · refine Binary64.toNatUpTo_eq (Binary64.mul_thousand_isWithin hpos h) ?_ ?_ ?_
    · push_cast
      linarith
    · push_cast
      linarith
    · unfold Text.maxWord64
      omega

/-- Seconds with two digits behind the point. -/
def secondsText (hundredths : Nat) : List Char :=
  Text.numeral (hundredths / 100) ++ '.' :: Text.padded 2 (hundredths % 100)

theorem forall_mem_secondsText {P : Char → Prop} (h : ∀ n < 10, P (Nat.digitChar n)) (hpoint : P '.') (hundredths : Nat) :
    ∀ c ∈ secondsText hundredths, P c := by
  refine List.forall_mem_append.mpr ⟨Text.forall_mem_numeral h _, List.forall_mem_cons.mpr ⟨hpoint, ?_⟩⟩
  rw [Text.padded_two _ (by omega)]
  exact List.forall_mem_cons.mpr ⟨h _ (by omega), List.forall_mem_singleton.mpr (h _ (by omega))⟩

/-- **Seconds with two digits behind the point are read exactly**, in milliseconds. -/
theorem read_secondsText (h : hundredths < 2 ^ 32) :
    (Binary64.read (secondsText hundredths)).map milliseconds = some (10 * hundredths) := by
  have hwhole : ∀ c ∈ Text.numeral (hundredths / 100), c.isDigit = true := fun _ => Text.isDigit_of_mem_numeral
  have hfraction : ∀ c ∈ Text.padded 2 (hundredths % 100), c.isDigit = true :=
    fun _ => Text.isDigit_of_mem_padded_two (by omega)
  obtain ⟨c, rest, hc⟩ : ∃ c rest, Text.numeral (hundredths / 100) = c :: rest :=
    List.exists_cons_of_ne_nil Nat.toDigits_ne_nil
  have hread : Binary64.read (secondsText hundredths) = Binary64.readUnsigned false (secondsText hundredths) := by
    rw [secondsText, hc, List.cons_append]
    exact Binary64.read_cons_of_isDigit (hwhole c (hc ▸ List.mem_cons_self)) _
  -- the digits in front of the point and those behind it, put together again
  have hvalue : 100 * (hundredths / 100) + hundredths % 100 = hundredths := Nat.div_add_mod hundredths 100
  have hlength : (Text.padded 2 (hundredths % 100)).length = 2 := by
    rw [Text.padded_two _ (by omega)]
    rfl
  have hne : Text.numeral (hundredths / 100) ≠ [] := Nat.toDigits_ne_nil
  rw [hread, secondsText, Binary64.readUnsigned_append_point hne hwhole hfraction,
    Text.digitsValue_numeral_append (by omega), hvalue, hlength, Option.map_some]
  exact congrArg some ((congrArg milliseconds (Binary64.ofDecimal_hundredths h)).trans (milliseconds_ofRatio h))

end Duration
end LintPlan
