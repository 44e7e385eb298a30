import LintPlan.Json.Printer
import LintPlan.Json.Reader
import LintPlan.Proofs.Text.ReadingBack

/-!
# Scalars that are read back

Texts and numbers stand in a JSON text in a form that reads as what they are, whatever comes behind. For a number this must not
go on like one.

* **`Reads`**, **`Passes`** — what a reader makes of a text with more behind it; places are left open.
* **`readText_quotedText`** — texts, character by character.
* **`readNumber_reads`** — numbers without an exponent, part by part; their value is that of their parts.
* **`value_integerText`** — the value of an integer of 64 bits.
-/

namespace LintPlan.Json

variable {α : Type} {more cs : List Char} {c : Char} {p : Position}

/-! ## §1 — going over a text

What a reader does on a text that is followed by more: it takes the text and stops in front of the rest. Where it stands in
lines and columns is left open, since only faults tell. -/

/-- Reading a text gives a value, and what stands behind the text is left. -/
def Reads (f : Reading α) (text : List Char) (v : α) (more : List Char) : Prop :=
  ∀ p, ∃ p', f ⟨text ++ more, p⟩ = .ok (v, ⟨more, p'⟩)

/-- Going over a text leaves what stands behind it. -/
def Passes (f : Cursor → Except Fault Cursor) (text more : List Char) : Prop :=
  ∀ p, ∃ p', f ⟨text ++ more, p⟩ = .ok ⟨more, p'⟩

/-- Blanks are skipped up to the first other character. -/
theorem skipBlanks_append {blanks : List Char} (hblanks : ∀ x ∈ blanks, isJsonBlank x = true) (hc : isJsonBlank c = false)
    (more : List Char) (p : Position) : ∃ p', (⟨blanks ++ c :: more, p⟩ : Cursor).skipBlanks = ⟨c :: more, p'⟩ := by
  induction blanks generalizing p with
  | nil => exact ⟨p, by simp [Cursor.skipBlanks, afterBlanks, hc]⟩
  | cons x blanks ih =>
    obtain ⟨hx, hrest⟩ := List.forall_mem_cons.mp hblanks
    obtain ⟨p', hskip⟩ := ih hrest (p.after x)
    refine ⟨p', ?_⟩
    simpa [Cursor.skipBlanks, afterBlanks, hx] using hskip

theorem skipBlanks_cons (hc : isJsonBlank c = false) (p : Position) : (⟨c :: more, p⟩ : Cursor).skipBlanks = ⟨c :: more, p⟩ := by
  simp [Cursor.skipBlanks, afterBlanks, hc]

/-- A word is passed over, letter by letter. -/
theorem passWord_passes (word more : List Char) : Passes (passWord word) word more := by
  induction word with
  | nil => exact fun p => ⟨p, rfl⟩
  | cons w word ih =>
    intro p
    obtain ⟨p', hword⟩ := ih (p.after w)
    refine ⟨p', ?_⟩
    simpa [passWord, Cursor.advance] using hword

/-! ## §2 — texts

Characters are escaped one by one when written. Reading has a case for each kind of escape, and the lemmas below are those
cases. -/

theorem hexWord?_hexPair {n : Nat} (h : n < 32) : hexWord? '0' '0' (Nat.digitChar (n / 16)) (Nat.digitChar (n % 16)) = some n := by
  revert n
  decide

theorem readChars_simple {e x : Char} (h : simpleEscape e = some x) (done : List Char) (p : Position) (rest : List Char) :
    readChars done p ('\\' :: e :: rest) = readChars (x :: done) (p.plus 2) rest := by
  have he : e ≠ 'u' := by
    rintro rfl
    cases h
  rw [readChars.eq_def]
  split <;> grind

theorem readChars_plain (hquote : c ≠ '"') (hbackslash : c ≠ '\\') (hlow : ¬ c.toNat < 0x20) (done : List Char) (p : Position)
    (rest : List Char) : readChars done p (c :: rest) = readChars (c :: done) (p.after c) rest := by
  rw [readChars.eq_def]
  split <;> grind

/-- **One character** is read back from the way it is written. -/
theorem readChars_escaped (c : Char) (done : List Char) (p : Position) :
    ∃ p', ∀ rest, readChars done p (escaped c ++ rest) = readChars (c :: done) p' rest := by
  have hsimple : ∀ e, simpleEscape e = some c →
      ∃ p', ∀ rest, readChars done p (['\\', e] ++ rest) = readChars (c :: done) p' rest :=
    fun e he => ⟨p.plus 2, readChars_simple he done p⟩
  have hof : ∀ n : Nat, (c.toNat == n) = true → c = Char.ofNat n := by
    intro n hn
    rw [← eq_of_beq hn, Char.ofNat_toNat]
  unfold escaped
  -- the characters with escapes of their own, the other controls, and all the rest
  split
  · next h => exact hsimple '"' (by rw [eq_of_beq h]; rfl)
  split
  · next h => exact hsimple '\\' (by rw [eq_of_beq h]; rfl)
  split
  · next h => exact hsimple 'b' (by rw [hof 8 h]; rfl)
  split
  · next h => exact hsimple 'f' (by rw [hof 12 h]; rfl)
  split
  · next h => exact hsimple 'n' (by rw [eq_of_beq h]; rfl)
  split
  · next h => exact hsimple 'r' (by rw [eq_of_beq h]; rfl)
  split
  · next h => exact hsimple 't' (by rw [eq_of_beq h]; rfl)
  split
  · next h =>
    have hfirst : isFirstHalf c.toNat = false := by
      simp [isFirstHalf]
      omega
    have hsecond : isSecondHalf c.toNat = false := by
      simp [isSecondHalf]
      omega
    refine ⟨p.plus 6, fun rest => ?_⟩
    simp [hexPair, readChars, hexWord?_hexPair h, hfirst, hsecond, Char.ofNat_toNat]
  · next hquote hbackslash _ _ _ _ _ hlow =>
    refine ⟨p.after c, fun rest => ?_⟩
    exact readChars_plain (fun heq => hquote (beq_iff_eq.mpr heq)) (fun heq => hbackslash (beq_iff_eq.mpr heq)) hlow done p rest

/-- What is escaped is read back up to the quote. Induction on the characters, with one lemma for what each is escaped to. -/
theorem readChars_flatMap_escaped (cs done : List Char) (p : Position) (more : List Char) :
    ∃ p', readChars done p (cs.flatMap escaped ++ '"' :: more) = .ok (done.reverse ++ cs, ⟨more, p'⟩) := by
  induction cs generalizing done p with
  | nil => exact ⟨p.plus 1, by simp [readChars]⟩
  | cons c cs ih =>
    obtain ⟨p₁, hfirst⟩ := readChars_escaped c done p
    obtain ⟨p₂, hrest⟩ := ih (c :: done) p₁
    refine ⟨p₂, ?_⟩
    rw [List.flatMap_cons, List.append_assoc, hfirst, hrest, List.reverse_cons, List.append_assoc, List.singleton_append]

/-- **A text is read back** from between its quotes. -/
theorem readText_quotedText (s : String) (more : List Char) : Reads readText (quotedText s) s more := by
  intro p
  obtain ⟨p', hchars⟩ := readChars_flatMap_escaped s.toList [] (p.plus 1) more
  refine ⟨p', ?_⟩
  have htail : (quotedText s ++ more).tail = s.toList.flatMap escaped ++ '"' :: more := by simp [quotedText]
  simp [readText, htail, hchars]

/-! ## §3 — numbers

A number has a sign, a whole part and a fraction, with a reader for each. None of them may take a character of what follows,
which is why the condition on the next character goes through the section. -/

/-- Can a number end before this? -/
def EndsNumber (more : List Char) : Prop :=
  ∀ x, more.head? = some x → x.isDigit = false ∧ x ≠ '.' ∧ x ≠ 'e' ∧ x ≠ 'E'

/-- A number without an exponent, as it is written. -/
def NumberText.chars (t : NumberText) : List Char :=
  Binary64.signed t.negative (t.whole ++ (t.fraction.map ('.' :: ·)).getD [])

/-- Are these digits, at least one? -/
def AreDigits (ds : List Char) : Prop := ds ≠ [] ∧ ∀ x ∈ ds, x.isDigit = true

/-- A number in the usual form: without zeros in front, and with digits behind the point if there is one. -/
structure NumberText.IsUsual (t : NumberText) : Prop where
  whole : AreDigits t.whole
  noZeros : t.whole = ['0'] ∨ t.whole.head? ≠ some '0'
  fraction : ∀ ds ∈ t.fraction, AreDigits ds
  exponent : t.exponent = none

theorem takeWhile_dropWhile_digits {ds : List Char} (hds : ∀ x ∈ ds, x.isDigit = true)
    (hmore : ∀ x, more.head? = some x → x.isDigit = false) :
    (ds ++ more).takeWhile Char.isDigit = ds ∧ (ds ++ more).dropWhile Char.isDigit = more := by
  rw [List.takeWhile_append_of_pos hds, List.dropWhile_append_of_pos hds]
  cases more with
  | nil => simp
  | cons x more => simp [hmore x rfl]

theorem readDigits_reads {ds : List Char} (atEnd : Cause) (hds : AreDigits ds)
    (hmore : ∀ x, more.head? = some x → x.isDigit = false) : Reads (readDigits atEnd) ds ds more := by
  intro p
  obtain ⟨htake, hdrop⟩ := takeWhile_dropWhile_digits hds.2 hmore
  refine ⟨p.plus ds.length, ?_⟩
  rw [readDigits, htake, hdrop, if_neg (by simpa using hds.1)]

theorem passSign_of_head? {signs : List Char} (h : ∀ x, cs.head? = some x → x ∉ signs) (p : Position) :
    passSign signs ⟨cs, p⟩ = (none, ⟨cs, p⟩) := by
  cases cs with
  | nil => rfl
  | cons x cs => simp [passSign, h x rfl]

/-- The whole part is read; the reader only minds a zero in front of other digits. -/
theorem readWhole_reads {ds : List Char} (atEnd : Cause) (hds : AreDigits ds) (hzeros : ds = ['0'] ∨ ds.head? ≠ some '0')
    (hmore : ∀ x, more.head? = some x → x.isDigit = false) : Reads (readWhole atEnd) ds ds more := by
  intro p
  have hdigits := readDigits_reads atEnd hds hmore p
  unfold readWhole
  rcases hzeros with rfl | hzeros
  · cases more with
    | nil => exact hdigits
    | cons x more => exact ⟨p.after '0', by simp [hmore x rfl, Cursor.advance]⟩
  · obtain ⟨d, ds, rfl⟩ := List.exists_cons_of_ne_nil hds.1
    have hd : d ≠ '0' := fun heq => hzeros (congrArg some heq)
    simpa [hd] using hdigits

/-- A point is read with the digits behind it, and without one there is no fraction. -/
theorem readFraction_reads {fraction : Option (List Char)} (atEnd : Cause) (hfraction : ∀ ds ∈ fraction, AreDigits ds)
    (hmore : EndsNumber more) : Reads (readFraction atEnd) ((fraction.map ('.' :: ·)).getD []) fraction more := by
  intro p
  unfold readFraction
  cases fraction with
  | none =>
    refine ⟨p, ?_⟩
    rw [Option.map_none, Option.getD_none, List.nil_append, passSign_of_head? fun x hx => by simpa using (hmore x hx).2.1]
  | some ds =>
    obtain ⟨p', hds⟩ := readDigits_reads atEnd (hfraction ds rfl) (fun x hx => (hmore x hx).1) (p.after '.')
    refine ⟨p', ?_⟩
    simp [passSign, Cursor.advance, hds, Except.map]

theorem readExponent_none (atEnd : Cause) (hmore : EndsNumber more) (p : Position) :
    readExponent atEnd ⟨more, p⟩ = .ok (none, ⟨more, p⟩) := by
  unfold readExponent
  rw [passSign_of_head? fun x hx => by simpa using (hmore x hx).2.2]

/-- The point of a fraction, or what stands behind the number, ends the digits in front of it. -/
theorem noDigit_fraction (fraction : Option (List Char)) (hmore : EndsNumber more) :
    ∀ x, ((fraction.map ('.' :: ·)).getD [] ++ more).head? = some x → x.isDigit = false := by
  intro x hx
  cases fraction with
  | none => exact (hmore x hx).1
  | some ds =>
    cases hx
    decide

theorem passSign_signed (negative : Bool) (hfirst : ∀ x, cs.head? = some x → x.isDigit = true) (p : Position) :
    ∃ p', passSign ['-'] ⟨Binary64.signed negative cs, p⟩ = (if negative then some '-' else none, ⟨cs, p'⟩) := by
  cases negative with
  | true => exact ⟨p.after '-', rfl⟩
  | false =>
    refine ⟨p, passSign_of_head? (fun x hx hminus => ?_) p⟩
    rw [List.mem_singleton.mp hminus] at hx
    cases hfirst '-' hx

/-- **A number is read back**, part by part. -/
theorem readNumberText_chars {t : NumberText} (ht : t.IsUsual) (atEnd : Cause) (hmore : EndsNumber more) :
    Reads (readNumberText atEnd) t.chars t more := by
  intro p
  obtain ⟨negative, whole, fraction, exponent⟩ := t
  obtain ⟨hwhole, hzeros, hfraction, rfl⟩ := ht
  have hchars : NumberText.chars ⟨negative, whole, fraction, none⟩ ++ more =
      Binary64.signed negative (whole ++ ((fraction.map ('.' :: ·)).getD [] ++ more)) := by
    cases negative <;> simp [NumberText.chars, Binary64.signed]
  have hfirst : ∀ x, (whole ++ ((fraction.map ('.' :: ·)).getD [] ++ more)).head? = some x → x.isDigit = true := by
    obtain ⟨d, ds, rfl⟩ := List.exists_cons_of_ne_nil hwhole.1
    rintro x hx
    cases hx
    exact hwhole.2 d List.mem_cons_self
  -- the places between the parts come from the readers before
  obtain ⟨p₁, hsign⟩ := passSign_signed negative hfirst p
  obtain ⟨p₂, hread⟩ := readWhole_reads atEnd hwhole hzeros (noDigit_fraction fraction hmore) p₁
  obtain ⟨p₃, hbehind⟩ := readFraction_reads atEnd hfraction hmore p₂
  refine ⟨p₃, ?_⟩
  unfold readNumberText
  rw [hchars, hsign]
  dsimp only
  rw [hread]
  dsimp only [bind, Except.bind]
  rw [hbehind]
  dsimp only
  rw [readExponent_none atEnd hmore]
  cases negative <;> rfl

/-- A number whose value is known is read. -/
theorem readNumber_reads {t : NumberText} {j : Json} (ht : t.IsUsual) (hvalue : t.value = .ok j) (hmore : EndsNumber more) :
    Reads readNumber t.chars j more := by
  intro p
  obtain ⟨p', ht'⟩ := readNumberText_chars ht (.cutOff .value) hmore p
  refine ⟨p', ?_⟩
  unfold readNumber
  rw [ht']
  dsimp only [bind, Except.bind]
  rw [hvalue]

/-- The parts of an integer as it is written. -/
def integerText (i : Int) : NumberText := ⟨decide (i < 0), Text.numeral i.natAbs, none, none⟩

theorem chars_integerText (i : Int) : (integerText i).chars = intText i := by
  simp [integerText, NumberText.chars, intText]

/-- Digits whose value fits a word are all taken: no step on the way was larger. -/
theorem fitting_digits {value : Nat} {ds : List Char} (h : ds.foldl (fun n c => 10 * n + (c.toNat - 48)) value ≤ Text.maxWord64) :
    fitting value ds = (ds.foldl (fun n c => 10 * n + (c.toNat - 48)) value, []) := by
  induction ds generalizing value with
  | nil => rfl
  | cons d ds ih =>
    have hle : ∀ (cs : List Char) (n : Nat), n ≤ cs.foldl (fun n c => 10 * n + (c.toNat - 48)) n := by
      intro cs
      induction cs with
      | nil => exact fun n => Nat.le_refl n
      | cons c cs ih => exact fun n => Nat.le_trans (by omega) (ih (10 * n + (c.toNat - 48)))
    rw [List.foldl_cons] at h ⊢
    rw [fitting, if_pos (Nat.le_trans (hle ds _) h), ih h]

/-- The numeral of a positive number has no zero in front. -/
theorem head?_numeral {n : Nat} (h : 0 < n) : (Text.numeral n).head? ≠ some '0' := by
  have hdigit : ∀ m < 10, 0 < m → Nat.digitChar m ≠ '0' := by decide
  induction n using Nat.strongRecOn with
  | ind n ih =>
    by_cases hlow : n < 10
    · rw [Text.numeral, Nat.toDigits_of_lt_base hlow]
      exact fun heq => hdigit n hlow h (Option.some.inj heq)
    · rw [Text.numeral, Nat.toDigits_of_base_le (by decide) (Nat.le_of_not_lt hlow), List.head?_append, Option.or_of_isSome (by simp)]
      exact ih (n / 10) (by omega) (by omega)

theorem isUsual_integerText (i : Int) : (integerText i).IsUsual where
  whole := ⟨Nat.toDigits_ne_nil, fun _ hx => Text.isDigit_of_mem_numeral hx⟩
  noZeros := by
    rcases Nat.eq_zero_or_pos i.natAbs with hzero | hpos
    · exact .inl (by rw [integerText, hzero]; rfl)
    · exact .inr (head?_numeral hpos)
  fraction := nofun
  exponent := rfl

/-- **An integer of 64 bits** is what its numeral says. -/
theorem value_integerText {i : Int} (hlow : -9223372036854775808 ≤ i) (hhigh : i ≤ Text.maxWord64) :
    (integerText i).value = .ok (.int i) := by
  have hvalue : (Text.numeral i.natAbs).foldl (fun n c => 10 * n + (c.toNat - 48)) 0 = i.natAbs := Text.digitsValue_numeral i.natAbs
  have hfits : i.natAbs ≤ Text.maxWord64 := by
    have hword : Text.maxWord64 = 18446744073709551615 := rfl
    omega
  -- no digit is left over, so the number stays an integer
  have hfitting : fitting 0 (Text.numeral i.natAbs) = (i.natAbs, []) := by
    rw [fitting_digits (by rw [hvalue]; exact hfits), hvalue]
  show (NumberText.integer? (decide (i < 0)) (Text.numeral i.natAbs)).elim _ _ = _
  rw [NumberText.integer?, hfitting]
  by_cases hnegative : i < 0
  · -- a minus in front of zero would make it a float
    have hzero : i.natAbs ≠ 0 := by omega
    have habs : (-(i.natAbs : Int)) = i := by omega
    have hbound : i.natAbs ≤ 9223372036854775808 := by omega
    simp only [List.isEmpty_nil, Bool.not_true, Bool.false_eq_true, ↓reduceIte, hnegative, decide_true, hzero, hbound, habs,
      Option.elim_some]
  · have habs : (i.natAbs : Int) = i := by omega
    simp only [List.isEmpty_nil, Bool.not_true, Bool.false_eq_true, ↓reduceIte, hnegative, decide_false, Bool.not_false, habs,
      Option.elim_some]

end LintPlan.Json
