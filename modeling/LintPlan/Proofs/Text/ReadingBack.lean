import LintPlan.Text.Letters
import LintPlan.Text.Basic

/-!
# Texts that read back

The readers of the library undo what its printers do, on the texts that a printer may be given:

* **`trim_eq_self_iff`** — a text is its own trimmed form iff there is no blank at either end.
* **`splitOn_join`** — cutting undoes joining, when no piece contains the separator.
* **`lines_flatMap`** — the lines of a text that was put together from lines.
* **`readNumeral_numeral`** — a numeral within the limit reads as its number.
-/

namespace LintPlan.Text

/-- What can be decided of every character of a text. -/
theorem forall_of_all {P : Char → Prop} [DecidablePred P] {cs : List Char} (h : (cs.all fun c => decide (P c)) = true) :
    ∀ c ∈ cs, P c := fun c hc => of_decide_eq_true (List.all_eq_true.1 h c hc)

/-! ## §1 — trimming

When trimming changes nothing, said by the first and the last character. -/

/-- Nothing is dropped exactly when the first character stays. -/
theorem dropWhile_eq_self_iff {p : Char → Bool} {cs : List Char} :
    cs.dropWhile p = cs ↔ ∀ c, cs.head? = some c → p c = false := by
  cases cs with
  | nil => simp
  | cons c cs =>
    cases hc : p c with
    | false => simp [hc]
    | true =>
      rw [List.dropWhile_cons_of_pos hc]
      constructor
      · intro h
        -- what is left would be longer than the text without its first character
        have hlen : (cs.dropWhile p).length ≤ cs.length := (List.dropWhile_sublist p).length_le
        rw [h, List.length_cons] at hlen
        omega
      · intro h
        exact absurd (h c rfl) (by rw [hc]; decide)

theorem trimStart_eq_self_iff {cs : List Char} :
    trimStart cs = cs ↔ ∀ c, cs.head? = some c → isBlank c = false := dropWhile_eq_self_iff

theorem trimEnd_eq_self_iff {cs : List Char} :
    trimEnd cs = cs ↔ ∀ c, cs.getLast? = some c → isBlank c = false := by
  rw [trimEnd, dropEndWhile, List.reverse_eq_iff, dropWhile_eq_self_iff, List.head?_reverse]

theorem trimEnd_sublist (cs : List Char) : (trimEnd cs).Sublist cs := by
  have h : (cs.reverse.dropWhile isBlank).reverse.Sublist cs.reverse.reverse :=
    (List.dropWhile_sublist isBlank).reverse
  rwa [List.reverse_reverse] at h

/-- **A text is its own trimmed form iff there is no blank at either end.** -/
theorem trim_eq_self_iff {cs : List Char} :
    trim cs = cs ↔ (∀ c, cs.head? = some c → isBlank c = false) ∧ ∀ c, cs.getLast? = some c → isBlank c = false := by
  rw [← trimStart_eq_self_iff, ← trimEnd_eq_self_iff]
  constructor
  · intro h
    -- trimming at the end makes nothing longer, so that nothing was dropped at the start
    have hstart : trimStart cs = cs := by
      have hsub : (trimStart cs).Sublist cs := List.dropWhile_sublist isBlank
      refine hsub.eq_of_length_le ?_
      calc cs.length = (trimEnd (trimStart cs)).length := by rw [← trim, h]
        _ ≤ (trimStart cs).length := (trimEnd_sublist _).length_le
    exact ⟨hstart, by rwa [trim, hstart] at h⟩
  · rintro ⟨h1, h2⟩
    rw [trim, h1, h2]

/-- A text without blanks is its own trimmed form. -/
theorem trim_eq_self_of_forall {cs : List Char} (h : ∀ c ∈ cs, isBlank c = false) : trim cs = cs :=
  trim_eq_self_iff.2 ⟨fun c hc => h c (List.mem_of_head? hc), fun c hc => h c (List.mem_of_getLast? hc)⟩

/-- The same for texts and for their characters. -/
theorem trimmed_eq_self_iff {s : String} : trimmed s = s ↔ trim s.toList = s.toList := by
  rw [trimmed]
  constructor
  · intro h
    have := congrArg String.toList h
    rwa [String.toList_ofList] at this
  · intro h
    rw [h, String.ofList_toList]

/-- A text without blanks at its end does not end with a carriage return. -/
theorem dropReturn_eq_self {line : List Char} (h : trim line = line) : dropReturn line = line := by
  rw [dropReturn, if_neg]
  intro hlast
  exact absurd ((trim_eq_self_iff.1 h).2 _ hlast) (by decide)

/-! ## §2 — cutting

Cutting what was joined, for the separators and markers of all formats. -/

theorem splitOn_of_not_mem {sep : Char} {cs : List Char} (h : sep ∉ cs) : splitOn sep cs = [cs] := by
  induction cs with
  | nil => rfl
  | cons c cs ih =>
    rw [List.mem_cons, not_or] at h
    rw [splitOn, if_neg (Ne.symm h.1), ih h.2]

theorem splitOn_append_cons {sep : Char} {a : List Char} (h : sep ∉ a) (b : List Char) :
    splitOn sep (a ++ sep :: b) = a :: splitOn sep b := by
  induction a with
  | nil => rw [List.nil_append, splitOn, if_pos rfl]
  | cons c a ih =>
    rw [List.mem_cons, not_or] at h
    rw [List.cons_append, splitOn, if_neg (Ne.symm h.1), ih h.2]

/-- The pieces before a separator and those behind it. -/
theorem splitOn_append_sep (sep : Char) (a b : List Char) : splitOn sep (a ++ sep :: b) = splitOn sep a ++ splitOn sep b := by
  induction a with
  | nil => exact (if_pos rfl : splitOn sep (sep :: b) = [] :: splitOn sep b)
  | cons c a ih =>
    rw [List.cons_append, splitOn, splitOn, ih]
    split
    · rfl
    · cases hpieces : splitOn sep a with
      | nil => exact absurd hpieces (splitOn_ne_nil sep a)
      | cons p ps => rfl

/-- **Cutting undoes joining.** -/
theorem splitOn_join {sep : Char} {pieces : List (List Char)} (hne : pieces ≠ []) (h : ∀ p ∈ pieces, sep ∉ p) :
    splitOn sep (join [sep] pieces) = pieces := by
  induction pieces with
  | nil => exact absurd rfl hne
  | cons p ps ih =>
    have hp := h p List.mem_cons_self
    cases ps with
    | nil => exact splitOn_of_not_mem hp
    | cons q qs =>
      show splitOn sep (p ++ [sep] ++ join [sep] (q :: qs)) = _
      rw [List.append_assoc, List.singleton_append, splitOn_append_cons hp,
        ih (List.cons_ne_nil _ _) fun x hx => h x (List.mem_cons_of_mem _ hx)]

/-- The first piece goes up to the first separator. -/
theorem splitOn_eq_cons (sep : Char) (cs : List Char) :
    ∃ pieces, splitOn sep cs = cs.takeWhile (· ≠ sep) :: pieces := by
  induction cs with
  | nil => exact ⟨[], rfl⟩
  | cons c cs ih =>
    obtain ⟨pieces, hpieces⟩ := ih
    by_cases hc : c = sep
    · exact ⟨splitOn sep cs, by simp [splitOn, hc]⟩
    · exact ⟨pieces, by simp [splitOn, hc, hpieces]⟩

/-- What has no separator belongs to the first piece. -/
theorem splitOn_append_of_not_mem {sep : Char} {a b piece : List Char} {pieces : List (List Char)} (ha : sep ∉ a)
    (hb : splitOn sep b = piece :: pieces) : splitOn sep (a ++ b) = (a ++ piece) :: pieces := by
  induction a with
  | nil => exact hb
  | cons c a ih =>
    rw [List.mem_cons, not_or] at ha
    rw [List.cons_append, splitOn, if_neg (Ne.symm ha.1), ih ha.2]
    rfl

theorem after_isSome_iff {front cs : List Char} : (after front cs).isSome = true ↔ front <+: cs := by
  fun_induction after front cs with
  | case1 cs => simp
  | case2 f front => simp
  | case3 f front cs ih => rw [ih, List.cons_prefix_cons, and_iff_right rfl]
  | case4 f front c cs hne => simp [hne]

/-- A part occurs in a text if it stands somewhere in it. -/
theorem contains_iff_infix {part cs : List Char} : contains part cs = true ↔ part <:+: cs := by
  induction cs with
  | nil => simp [contains]
  | cons c cs ih => rw [contains, Bool.or_eq_true, after_isSome_iff, ih, List.infix_cons_iff]

theorem occurs_iff_infix {part s : String} : occurs part s = true ↔ part.toList <:+: s.toList := contains_iff_infix

theorem after_append (front rest : List Char) : after front (front ++ rest) = some rest := by
  induction front with
  | nil => rfl
  | cons f front ih => rw [List.cons_append, after, if_pos rfl, ih]

/-- A run of characters with a property goes on until one comes without it. -/
theorem takeWhile_append_cons {p : Char → Bool} {run : List Char} {stop : Char} (h : ∀ c ∈ run, p c = true)
    (hstop : p stop = false) (rest : List Char) : (run ++ stop :: rest).takeWhile p = run := by
  rw [List.takeWhile_append_of_pos h, List.takeWhile_cons_of_neg (by rw [hstop]; decide), List.append_nil]

theorem dropWhile_append_cons {p : Char → Bool} {run : List Char} {stop : Char} (h : ∀ c ∈ run, p c = true)
    (hstop : p stop = false) (rest : List Char) : (run ++ stop :: rest).dropWhile p = stop :: rest := by
  rw [List.dropWhile_append_of_pos h, List.dropWhile_cons_of_neg (by rw [hstop]; decide)]

theorem cut_append_cons {sep : Char} {a : List Char} (h : sep ∉ a) (b : List Char) :
    cut sep (a ++ sep :: b) = some (a, b) := by
  induction a with
  | nil => rw [List.nil_append, cut, if_pos rfl]
  | cons c a ih =>
    rw [List.mem_cons, not_or] at h
    rw [List.cons_append, cut, if_neg (Ne.symm h.1), ih h.2]
    rfl

/-- Every character of a joined text is one of a piece or a separator. -/
theorem mem_join {c : Char} {sep : List Char} {pieces : List (List Char)} (h : c ∈ join sep pieces) :
    c ∈ sep ∨ ∃ p ∈ pieces, c ∈ p := by
  induction pieces with
  | nil => exact absurd h (List.not_mem_nil)
  | cons p ps ih =>
    cases ps with
    | nil => exact Or.inr ⟨p, List.mem_cons_self, h⟩
    | cons q qs =>
      rcases List.mem_append.1 h with h | h
      · rcases List.mem_append.1 h with h | h
        · exact Or.inr ⟨p, List.mem_cons_self, h⟩
        · exact Or.inl h
      · rcases ih h with h | ⟨x, hx, hc⟩
        · exact Or.inl h
        · exact Or.inr ⟨x, List.mem_cons_of_mem _ hx, hc⟩

/-! ## §3 — lines

Lines that are written one by one are read back one by one. -/

/-- Lines in front are pieces of their own. -/
theorem splitOn_lines_append {ls : List (List Char)} (h : ∀ l ∈ ls, '\n' ∉ l) (cs : List Char) :
    splitOn '\n' (ls.flatMap (· ++ ['\n']) ++ cs) = ls ++ splitOn '\n' cs := by
  induction ls with
  | nil => rfl
  | cons l ls ih =>
    have hl : '\n' ∉ l := h l List.mem_cons_self
    have hls : ∀ x ∈ ls, '\n' ∉ x := fun x hx => h x (List.mem_cons_of_mem _ hx)
    rw [List.flatMap_cons, List.append_assoc, List.append_assoc, List.singleton_append, splitOn_append_cons hl, ih hls,
      List.cons_append]

/-- Lines that are each ended are the pieces, with an empty one behind the last. -/
theorem splitOn_flatMap_lines {ls : List (List Char)} (h : ∀ l ∈ ls, '\n' ∉ l) :
    splitOn '\n' (ls.flatMap (· ++ ['\n'])) = ls ++ [[]] := by
  have hsplit := splitOn_lines_append h []
  rwa [List.append_nil] at hsplit

/-- That empty piece is no line. -/
theorem linesOfPieces_append_nil (ls : List (List Char)) : linesOfPieces (ls ++ [[]]) = ls.map dropReturn := by
  induction ls with
  | nil => rfl
  | cons l ls ih =>
    rw [List.cons_append, List.map_cons, ← ih]
    cases ls with
    | nil => rfl
    | cons m ms => rfl

/-- **Lines without line feeds, each ended by one, are the lines of their text**, but for carriage returns at their
ends. -/
theorem lines_flatMap {ls : List (List Char)} (h : ∀ l ∈ ls, '\n' ∉ l) :
    lines (ls.flatMap (· ++ ['\n'])) = ls.map dropReturn := by
  rw [lines, splitOn_flatMap_lines h, linesOfPieces_append_nil]

/-! ## §4 — numerals

Numbers are written in decimal and read back. -/

theorem isDigit_of_mem_numeral {n : Nat} {c : Char} (h : c ∈ numeral n) : c.isDigit = true :=
  Nat.isDigit_of_mem_toDigits (by decide) (by decide) h

/-- Letters and digits of ASCII lie within these bounds. -/
theorem toNat_of_isAlphanum {c : Char} (h : c.isAlphanum = true) : 48 ≤ c.toNat ∧ c.toNat ≤ 122 := by
  have hval : c.toNat = c.val.toNat := rfl
  have hranges : (decide ('A'.val ≤ c.val ∧ c.val ≤ 'Z'.val) ||
      (decide ('a'.val ≤ c.val) && decide (c.val ≤ 'z'.val)) ||
      (decide ('0'.val ≤ c.val) && decide (c.val ≤ '9'.val))) = true := h
  simp only [Bool.or_eq_true, Bool.and_eq_true, decide_eq_true_iff, UInt32.le_iff_toNat_le] at hranges
  simp at hranges
  omega

theorem not_isBlank_of_isAlphanum {c : Char} (h : c.isAlphanum = true) : isBlank c = false := by
  obtain ⟨hlow, hhigh⟩ := toNat_of_isAlphanum h
  unfold isBlank
  grind

theorem not_isBlank_of_isDigit {c : Char} (h : c.isDigit = true) : isBlank c = false :=
  not_isBlank_of_isAlphanum (by rw [Char.isAlphanum, h, Bool.or_true])

theorem isDecimal_of_isDigit {c : Char} (h : c.isDigit = true) : isDecimal c = true := by
  have hhigh : c.toNat ≤ 57 := (Char.isDigit_iff_toNat.1 h).2
  rw [isDecimal, if_pos (by omega), h]

theorem digitsValue_numeral (n : Nat) : digitsValue (numeral n) = n := Nat.ofDigitChars_ten_toDigits

theorem readDigits_of_isDigit {digits : List Char} (hne : digits ≠ []) (h : ∀ c ∈ digits, c.isDigit = true) :
    readDigits digits = some (digitsValue digits) := by
  rw [readDigits, List.isEmpty_eq_false_iff.2 hne, List.all_eq_true.2 h]
  rfl

/-- Digits within the limit read as their value. -/
theorem readNumeral_of_isDigit {limit : Nat} {digits : List Char} (hne : digits ≠ [])
    (h : ∀ c ∈ digits, c.isDigit = true)
    (hlimit : digitsValue digits ≤ limit) : readNumeral limit digits = some (digitsValue digits) := by
  unfold readNumeral
  split
  · next rest => exact absurd (h '+' List.mem_cons_self) (by decide)
  · show (readDigits digits).filter _ = _
    rw [readDigits_of_isDigit hne h, Option.filter_some, if_pos (decide_eq_true hlimit)]

/-- **A numeral within the limit reads as its number.** -/
theorem readNumeral_numeral {limit n : Nat} (h : n ≤ limit) : readNumeral limit (numeral n) = some n := by
  have hne : numeral n ≠ [] := Nat.toDigits_ne_nil
  have hlimit : digitsValue (numeral n) ≤ limit := by rwa [digitsValue_numeral]
  have hdigits := readNumeral_of_isDigit hne (fun _ => isDigit_of_mem_numeral) hlimit
  rwa [digitsValue_numeral] at hdigits

end LintPlan.Text
