import LintPlan.Proofs.Number.Seconds
import LintPlan.Proofs.Report.Counters

/-!
# Lines of a log that are read back

A log says the same of a linter twice: in a status line, where numbers and the time are searched for, and in a row of a
table, where they stand in their cells. Both are read as what was printed.

* **`countBefore_numeral`**, **`elapsed_append`** — what a search in a line finds.
* **`cells_tableRow`** — the cells of a row, whatever spaces stand around them.
* **`status?_statusLine`**, **`row?_tableRow`** — so the two lines on a linter (`LogEntry`) are read back.
-/

namespace LintPlan

namespace LogLine

open Text Duration

variable {α : Type} {f : List Char → Option α} {word before cs rest text : List Char} {c : Char} {n hundredths : Nat}

/-! ## §1 — searching a line

Numbers and times are searched for from place to place. They are found where they were printed if nothing in front of them fits.
-/

theorem firstRead_of_eq_some {x : α} (h : f cs = some x) : firstRead f cs = some x := by
  cases cs with
  | nil => exact h
  | cons c cs =>
    rw [firstRead, h]
    rfl

/-- Where nothing is read, the search goes on. -/
theorem firstRead_append (h : ∀ c ∈ before, ∀ cs, f (c :: cs) = none) (cs : List Char) :
    firstRead f (before ++ cs) = firstRead f cs := by
  induction before with
  | nil => rfl
  | cons c before ih =>
    rw [List.cons_append, firstRead, h c List.mem_cons_self]
    exact ih fun d hd => h d (List.mem_cons_of_mem c hd)

/-- What is read somewhere is read at the front of what is left there. -/
theorem exists_suffix_of_firstRead {x : α} (h : firstRead f cs = some x) : ∃ part, part <:+ cs ∧ f part = some x := by
  induction cs with
  | nil => exact ⟨[], List.suffix_rfl, h⟩
  | cons c cs ih =>
    rw [firstRead] at h
    cases hc : f (c :: cs) with
    | some y =>
      rw [hc] at h
      exact ⟨c :: cs, List.suffix_rfl, hc.trans h⟩
    | none =>
      rw [hc] at h
      obtain ⟨part, hpart, hx⟩ := ih h
      exact ⟨part, hpart.trans (List.suffix_cons c cs), hx⟩

/-- Every letter of a word that is found has its like in the text. -/
theorem exists_sameLetter_of_afterWord (h : afterWord word cs = some rest) (hc : c ∈ word) :
    ∃ d ∈ cs, sameLetter c d = true := by
  fun_induction afterWord word cs with
  | case1 => exact absurd hc List.not_mem_nil
  | case2 => cases h
  | case3 w word d cs hsame ih =>
    rcases List.mem_cons.mp hc with rfl | hc
    · exact ⟨d, List.mem_cons_self, hsame⟩
    · obtain ⟨e, he, hce⟩ := ih h hc
      exact ⟨e, List.mem_cons_of_mem d he, hce⟩
  | case4 => cases h

/-- Without one of its letters, a word is not there, and nothing is counted. -/
theorem countBefore_eq_zero (hc : c ∈ word) (h : ∀ d ∈ cs, sameLetter c d = false) : countBefore word cs = 0 := by
  rw [countBefore]
  cases hread : firstRead (countOf word) cs with
  | none => rfl
  | some digits =>
    obtain ⟨part, hpart, hcount⟩ := exists_suffix_of_firstRead hread
    unfold countOf at hcount
    dsimp only at hcount
    split at hcount
    · cases hcount
    · obtain ⟨rest, hafter, -⟩ := Option.map_eq_some_iff.mp hcount
      obtain ⟨d, hd, hsame⟩ := exists_sameLetter_of_afterWord hafter hc
      have hmem : d ∈ part :=
        (List.dropWhile_sublist _).subset ((List.dropWhile_sublist _).subset hd)
      rw [h d (hpart.subset hmem)] at hsame
      cases hsame

/-- The first number, if the word follows it. -/
theorem countBefore_numeral (hn : n ≤ maxWord64) (hbefore : ∀ c ∈ before, isDecimal c = false)
    (hword : (afterWord word rest).isSome = true) (hblank : trimStart rest = rest) :
    countBefore word (before ++ (numeral n ++ ' ' :: rest)) = n := by
  have hdigits : ∀ c ∈ numeral n, isDecimal c = true := fun c hc => isDecimal_of_isDigit (isDigit_of_mem_numeral hc)
  have hne : (numeral n).isEmpty = false := List.isEmpty_eq_false_iff.mpr Nat.toDigits_ne_nil
  have hcount : countOf word (numeral n ++ ' ' :: rest) = some (numeral n) := by
    obtain ⟨more, hmore⟩ := Option.isSome_iff_exists.mp hword
    have hskip : (' ' :: rest).dropWhile isBlank = rest := hblank
    unfold countOf
    rw [takeWhile_append_cons hdigits (by decide), dropWhile_append_cons hdigits (by decide)]
    dsimp only
    rw [hskip, hmore, hne]
    rfl
  have hskip : ∀ c ∈ before, ∀ cs, countOf word (c :: cs) = none := by
    intro c hc cs
    simp [countOf, hbefore c hc]
  rw [countBefore, firstRead_append hskip, firstRead_of_eq_some hcount]
  show (readNumeral maxWord64 (numeral n)).getD 0 = n
  rw [readNumeral_numeral hn, Option.getD_some]

/-- A time in parentheses is found. -/
theorem elapsedAt_secondsText (hundredths : Nat) :
    elapsedAt ('(' :: (secondsText hundredths ++ ['s', ')'])) = some (secondsText hundredths) := by
  have hwhole : ∀ c ∈ numeral (hundredths / 100), isDecimal c = true :=
    fun c hc => isDecimal_of_isDigit (isDigit_of_mem_numeral hc)
  have hfraction : ∀ c ∈ padded 2 (hundredths % 100), isDecimal c = true :=
    fun c hc => isDecimal_of_isDigit (isDigit_of_mem_padded_two (by omega) hc)
  have hne : (numeral (hundredths / 100)).isEmpty = false := List.isEmpty_eq_false_iff.mpr Nat.toDigits_ne_nil
  have hne' : (padded 2 (hundredths % 100)).isEmpty = false := by
    rw [padded_two _ (by omega)]
    rfl
  have hpoint : isDecimal '.' = false := by decide
  have hunit : isDecimal 's' = false := by decide
  have htake := takeWhile_append_cons hwhole hpoint (padded 2 (hundredths % 100) ++ ['s', ')'])
  have hdrop := dropWhile_append_cons hwhole hpoint (padded 2 (hundredths % 100) ++ ['s', ')'])
  have htake' := takeWhile_append_cons hfraction hunit [')']
  have hdrop' : ('.' :: (padded 2 (hundredths % 100) ++ ['s', ')'])).drop (1 + (padded 2 (hundredths % 100)).length) =
      ['s', ')'] := by
    rw [Nat.add_comm, List.drop_succ_cons, List.drop_left]
  rw [secondsText, List.append_assoc, List.cons_append]
  simp only [elapsedAt, htake, hdrop, htake', hdrop', hne, hne', Bool.false_eq_true, if_false]
  rfl

theorem elapsedAt_cons (h : c ≠ '(') (cs : List Char) : elapsedAt (c :: cs) = none := by
  unfold elapsedAt
  split
  · next heq => exact absurd (List.cons.inj heq).1 h
  · rfl

/-- The first time in brackets. -/
theorem elapsed_append (hbefore : ∀ c ∈ before, c ≠ '(') (h : hundredths < 2 ^ 32) :
    elapsed (before ++ '(' :: (secondsText hundredths ++ ['s', ')'])) = some (10 * hundredths) := by
  rw [elapsed, firstRead_append fun c hc => elapsedAt_cons (hbefore c hc),
    firstRead_of_eq_some (elapsedAt_secondsText hundredths), Option.bind_some, read_secondsText h]

/-- There is no time in brackets that begin with something else. -/
theorem elapsed_append_bracket (hbefore : ∀ c ∈ before, c ≠ '(') (hc : isDecimal c = false) (cs : List Char) :
    elapsed (before ++ '(' :: c :: cs) = elapsed (c :: cs) := by
  have hnone : elapsedAt ('(' :: c :: cs) = none := by simp [elapsedAt, hc]
  rw [elapsed, firstRead_append fun c hc => elapsedAt_cons (hbefore c hc), firstRead, hnone]
  rfl

/-! ## §2 — reading a row

A row is a bar, cells with padding and bars between them. -/

/-- A row of a table, with spaces around the cells. -/
def tableRow (padding : Nat → Nat × Nat) (texts : List (List Char)) : List Char :=
  '|' :: (join ['|'] (texts.mapIdx fun i text =>
    List.replicate (padding i).1 ' ' ++ (text ++ List.replicate (padding i).2 ' ')) ++ ['|'])

/-- Neither white space nor a bar. -/
def IsSolid (c : Char) : Prop := isBlank c = false ∧ c ≠ '|'

instance (c : Char) : Decidable (IsSolid c) := inferInstanceAs (Decidable (_ ∧ _))

theorem ne_newline_of_isSolid (h : IsSolid c) : c ≠ '\n' := by
  rintro rfl
  exact absurd h.1 (by decide)

/-- A text on one line that can be told from the spaces and bars around it. -/
structure IsCell (text : List Char) : Prop where
  ne_nil : text ≠ []
  trimmed : trim text = text
  bar_not_mem : '|' ∉ text
  newline_not_mem : '\n' ∉ text

variable {texts : List (List Char)}

theorem isCell_of_forall (hne : text ≠ []) (h : ∀ c ∈ text, IsSolid c) : IsCell text where
  ne_nil := hne
  trimmed := trim_eq_self_of_forall fun c hc => (h c hc).1
  bar_not_mem hmem := (h '|' hmem).2 rfl
  newline_not_mem hmem := ne_newline_of_isSolid (h '\n' hmem) rfl

theorem dropEndWhile_eq_self {p : Char → Bool} (h : ∀ c, cs.getLast? = some c → p c = false) : dropEndWhile p cs = cs := by
  rw [dropEndWhile, List.reverse_eq_iff, dropWhile_eq_self_iff, List.head?_reverse]
  exact h

/-- Spaces around a text are trimmed. -/
theorem trim_spaces (h : trim text = text) (hne : text ≠ []) (before after : Nat) :
    trim (List.replicate before ' ' ++ (text ++ List.replicate after ' ')) = text := by
  have hblank : ∀ n, ∀ c ∈ List.replicate n ' ', isBlank c = true := by
    intro n c hc
    rw [List.eq_of_mem_replicate hc]
    decide
  obtain ⟨hfirst, hlast⟩ := trim_eq_self_iff.mp h
  have hstart : trimStart (text ++ List.replicate after ' ') = text ++ List.replicate after ' ' := by
    refine trimStart_eq_self_iff.mpr fun c hc => hfirst c ?_
    rwa [List.head?_append_of_ne_nil _ hne] at hc
  rw [trim, trimStart, List.dropWhile_append_of_pos (hblank before), ← trimStart, hstart, trimEnd, dropEndWhile,
    List.reverse_append, List.reverse_replicate, List.dropWhile_append_of_pos (hblank after)]
  exact trimEnd_eq_self_iff.mpr hlast

/-- A joined text without empty pieces begins and ends with a character of a piece. -/
theorem mem_piece_of_head?_join {sep : List Char} {pieces : List (List Char)} (h : ∀ piece ∈ pieces, piece ≠ [])
    (hc : (join sep pieces).head? = some c) : ∃ piece ∈ pieces, c ∈ piece := by
  cases pieces with
  | nil => cases hc
  | cons piece pieces =>
    refine ⟨piece, List.mem_cons_self, List.mem_of_head? ?_⟩
    have hne : piece ≠ [] := h piece List.mem_cons_self
    cases pieces with
    | nil => exact hc
    | cons next pieces =>
      rwa [join, List.append_assoc, List.head?_append_of_ne_nil _ hne] at hc
      exact List.cons_ne_nil next pieces

/-- Pieces that are not empty make a text that is not. -/
theorem join_ne_nil {sep : List Char} {pieces : List (List Char)} (hne : pieces ≠ []) (h : ∀ piece ∈ pieces, piece ≠ []) :
    join sep pieces ≠ [] := by
  cases pieces with
  | nil => exact absurd rfl hne
  | cons piece pieces =>
    have hpiece : piece ≠ [] := h piece List.mem_cons_self
    cases pieces with
    | nil => exact hpiece
    | cons => simp [join, hpiece]

/-- The last character of a joined text is one of some piece. -/
theorem mem_piece_of_getLast?_join {sep : List Char} {pieces : List (List Char)} (h : ∀ piece ∈ pieces, piece ≠ [])
    (hc : (join sep pieces).getLast? = some c) : ∃ piece ∈ pieces, c ∈ piece := by
  induction pieces with
  | nil => cases hc
  | cons piece pieces ih =>
    cases pieces with
    | nil => exact ⟨piece, List.mem_cons_self, List.mem_of_getLast? hc⟩
    | cons next pieces =>
      have hne : join sep (next :: pieces) ≠ [] :=
        join_ne_nil (List.cons_ne_nil _ _) fun p hp => h p (List.mem_cons_of_mem piece hp)
      have hlast : (join sep (next :: pieces)).getLast? = some c := by
        rwa [join, List.getLast?_append_of_ne_nil _ hne] at hc
        exact List.cons_ne_nil next pieces
      obtain ⟨piece', hmem, hc'⟩ := ih (fun p hp => h p (List.mem_cons_of_mem piece hp)) hlast
      exact ⟨piece', List.mem_cons_of_mem piece hmem, hc'⟩

theorem trim_tableRow (padding : Nat → Nat × Nat) (texts : List (List Char)) :
    trim (tableRow padding texts) = tableRow padding texts := by
  refine trim_eq_self_iff.mpr ⟨fun c hc => ?_, fun c hc => ?_⟩
  · cases hc
    decide
  · rw [tableRow, ← List.cons_append, List.getLast?_concat] at hc
    cases hc
    decide

/-- Taking the outer bars away leaves the cells. -/
theorem dropBars_row {cells : List (List Char)} (h : ∀ cell ∈ cells, cell ≠ [] ∧ '|' ∉ cell) (hne : join ['|'] cells ≠ []) :
    dropBars ('|' :: (join ['|'] cells ++ ['|'])) = join ['|'] cells := by
  have hbar : ∀ c, (∃ cell ∈ cells, c ∈ cell) → (c == '|') = false := by
    rintro c ⟨cell, hcell, hc⟩
    exact beq_eq_false_iff_ne.mpr fun heq => (h cell hcell).2 (heq ▸ hc)
  have hfirst : ∀ c, (join ['|'] cells ++ ['|']).head? = some c → (c == '|') = false := by
    intro c hc
    rw [List.head?_append_of_ne_nil _ hne] at hc
    exact hbar c (mem_piece_of_head?_join (fun cell hcell => (h cell hcell).1) hc)
  have hlast : ∀ c, (join ['|'] cells).getLast? = some c → (c == '|') = false :=
    fun c hc => hbar c (mem_piece_of_getLast?_join (fun cell hcell => (h cell hcell).1) hc)
  rw [dropBars, List.dropWhile_cons_of_pos (by decide), dropWhile_eq_self_iff.mpr hfirst, dropEndWhile, List.reverse_append,
    List.reverse_singleton, List.singleton_append, List.dropWhile_cons_of_pos (by decide)]
  exact dropEndWhile_eq_self hlast

/-- **The cells of a row are read back**, whatever spaces stand around them. -/
theorem cells_tableRow (padding : Nat → Nat × Nat) (hne : texts ≠ []) (h : ∀ text ∈ texts, IsCell text) :
    cells (tableRow padding texts) = texts := by
  -- padding brings no bar and leaves no cell empty
  have hspaced : ∀ cell ∈ (texts.mapIdx fun i text =>
      List.replicate (padding i).1 ' ' ++ (text ++ List.replicate (padding i).2 ' ')), cell ≠ [] ∧ '|' ∉ cell := by
    intro cell hcell
    obtain ⟨i, hi, rfl⟩ := List.mem_mapIdx.mp hcell
    have htext := h texts[i] (List.getElem_mem hi)
    refine ⟨by simp [htext.ne_nil], ?_⟩
    rw [List.mem_append, List.mem_append, List.mem_replicate, List.mem_replicate]
    rintro (⟨-, hbar⟩ | hbar | ⟨-, hbar⟩)
    · exact absurd hbar (by decide)
    · exact htext.bar_not_mem hbar
    · exact absurd hbar (by decide)
  have hne' : (texts.mapIdx fun i text =>
      List.replicate (padding i).1 ' ' ++ (text ++ List.replicate (padding i).2 ' ')) ≠ [] := by
    rwa [Ne, List.mapIdx_eq_nil_iff]
  rw [cells, tableRow, dropBars_row hspaced (join_ne_nil hne' fun cell hcell => (hspaced cell hcell).1),
    splitOn_join hne' fun cell hcell => (hspaced cell hcell).2]
  refine List.ext_getElem (by simp) fun i hi hi' => ?_
  rw [List.getElem_map, List.getElem_mapIdx]
  exact trim_spaces (h texts[i] (List.getElem_mem hi')).trimmed (h texts[i] (List.getElem_mem hi')).ne_nil _ _

theorem withoutUnit_eq_self (h : ∀ c ∈ cs, c ≠ 's') : withoutUnit cs = cs :=
  dropEndWhile_eq_self fun c hc => beq_eq_false_iff_ne.mpr (h c (List.mem_of_getLast? hc))

theorem cellNumber_numeral (hn : n ≤ maxWord64) : cellNumber (numeral n) = n := by
  rw [cellNumber, withoutUnit_eq_self (forall_mem_numeral (by decide) n), readNumeral_numeral hn, Option.getD_some]

theorem cellTime_secondsText (h : hundredths < 2 ^ 32) :
    cellTime (secondsText hundredths ++ ['s']) = some (10 * hundredths) := by
  have hunit : withoutUnit (secondsText hundredths ++ ['s']) = withoutUnit (secondsText hundredths) := by
    unfold withoutUnit dropEndWhile
    rw [List.reverse_append, List.reverse_singleton, List.singleton_append, List.dropWhile_cons_of_pos (by decide)]
  rw [cellTime, hunit, withoutUnit_eq_self (forall_mem_secondsText (by decide) (by decide) hundredths), read_secondsText h]

end LogLine

/-! ## §3 — what is printed about a linter

A linter has a status line and a row, and both are read back. -/

open Text LogLine

/-- A character of a linter's name. -/
def isNameLetter (c : Char) : Bool := c.isAlphanum || c == '_' || c == '.' || c == '-'

/-- What a log says about a linter. -/
structure LogEntry where
  /-- The linter's name. -/
  name : List Char
  /-- What it looks at. -/
  descriptor : List Char
  /-- How it ended. -/
  outcome : Outcome
  /-- Files that it looked at. -/
  files : Nat
  /-- Findings that it has fixed. -/
  fixed : Nat
  /-- Errors that it reports. -/
  errors : Nat
  /-- Warnings that it reports. -/
  warnings : Nat
  /-- Hundredths of a second that it took. -/
  hundredths : Nat
  name_ne_nil : name ≠ []
  isNameLetter_of_mem : ∀ c ∈ name, isNameLetter c = true
  descriptor_ne_nil : descriptor ≠ []
  isDescriptorChar_of_mem : ∀ c ∈ descriptor, isDescriptorChar c = true
  files_le : files ≤ maxWord64
  fixed_le : fixed ≤ maxWord64
  errors_le : errors ≤ maxWord64
  warnings_le : warnings ≤ maxWord64
  hundredths_lt : hundredths < 2 ^ 32

/-- How a status line goes on behind the linter's name. -/
def verdict : Outcome → Nat → List Char
  | .success, _ => " successfully - ".toList
  | .failed, errors => ": Found ".toList ++ (numeral errors ++ " error(s) - ".toList)

namespace LogEntry

variable (e : LogEntry)

/-- The mark for the outcome. -/
def mark : Char :=
  match e.outcome with
  | .success => '✅'
  | .failed => '❌'

/-- The end of the status line. -/
def ending : List Char := verdict e.outcome e.errors ++ '(' :: (Duration.secondsText e.hundredths ++ ['s', ')'])

/-- The status line from the linter's name on. -/
def naming : List Char := e.name ++ ']' :: e.ending

/-- The status line. -/
def statusLine : List Char :=
  e.mark :: ' ' :: ("Linted [".toList ++ (e.descriptor ++ ("] files with [".toList ++ e.naming)))

/-- The cells of the row. -/
def cells : List (List Char) :=
  [e.mark :: ' ' :: e.descriptor, e.name, "list".toList, numeral e.files, numeral e.fixed, numeral e.errors,
    numeral e.warnings, Duration.secondsText e.hundredths ++ ['s']]

/-- What the status line says. -/
def told : LinterResult :=
  { LinterResult.blank (String.ofList e.name) e.outcome with
    errors := if e.outcome = .failed then e.errors else 0
    duration := some (10 * e.hundredths) }

/-- All that is said. -/
def result : LinterResult :=
  ⟨String.ofList e.name, e.outcome, e.files, e.errors, e.warnings, e.fixed, some (10 * e.hundredths), []⟩

variable {e : LogEntry} {c : Char}

theorem mark_of_outcome (e : LogEntry) :
    outcomeOfMark e.mark = some e.outcome ∧ cellOutcome (e.mark :: ' ' :: e.descriptor) = some e.outcome ∧
      isBlank e.mark = false ∧ e.mark ≠ '|' := by
  unfold mark
  cases e.outcome <;> exact ⟨rfl, rfl, rfl, by decide⟩

theorem mark_ne_newline (e : LogEntry) : e.mark ≠ '\n' := by
  intro heq
  exact absurd (heq ▸ e.mark_of_outcome.2.2.1) (by decide)

/-- Letters of names are read as such. -/
theorem isNameChar_of_isNameLetter (h : isNameLetter c = true) : isNameChar c = true := by
  simp only [isNameLetter, Bool.or_eq_true, beq_iff_eq] at h
  rcases h with ((h | rfl) | rfl) | rfl
  · have hlow : c.toNat < 128 := by
      have := (toNat_of_isAlphanum h).2
      omega
    rw [isNameChar, isWordChar, if_pos hlow, h, Bool.true_or, Bool.true_or, Bool.true_or]
  · decide
  · decide
  · decide

theorem isSolid_of_isAlphanum (h : c.isAlphanum = true) : IsSolid c := by
  refine ⟨not_isBlank_of_isAlphanum h, ?_⟩
  rintro rfl
  exact absurd (toNat_of_isAlphanum h).2 (by decide)

theorem isSolid_of_isNameLetter (h : isNameLetter c = true) : IsSolid c := by
  simp only [isNameLetter, Bool.or_eq_true, beq_iff_eq] at h
  rcases h with ((h | rfl) | rfl) | rfl
  · exact isSolid_of_isAlphanum h
  all_goals decide

theorem isSolid_of_isDescriptorChar (h : isDescriptorChar c = true) : IsSolid c := by
  simp only [isDescriptorChar, Bool.or_eq_true, beq_iff_eq] at h
  rcases h with (h | h) | rfl
  · have halpha : c.isAlpha = true := Bool.or_eq_true_iff.mpr (.inl h)
    exact isSolid_of_isAlphanum (by rw [Char.isAlphanum, halpha, Bool.true_or])
  · exact isSolid_of_isAlphanum (by rw [Char.isAlphanum, h, Bool.or_true])
  · decide

/-- What holds of the digits and of the words in a status line holds of its end. -/
theorem forall_mem_ending {P : Char → Prop} (hdigit : ∀ n < 10, P (Nat.digitChar n))
    (hsuccess : ∀ c ∈ " successfully - ".toList, P c) (hfound : ∀ c ∈ ": Found ".toList, P c)
    (herrors : ∀ c ∈ " error(s) - ".toList, P c) (htime : ∀ c ∈ ['(', '.', 's', ')'], P c) (e : LogEntry) :
    ∀ c ∈ e.ending, P c := by
  have hverdict : ∀ c ∈ verdict e.outcome e.errors, P c := by
    cases e.outcome with
    | success => exact hsuccess
    | failed =>
      exact List.forall_mem_append.mpr ⟨hfound, List.forall_mem_append.mpr ⟨forall_mem_numeral hdigit _, herrors⟩⟩
  obtain ⟨hopen, htime⟩ := List.forall_mem_cons.mp htime
  obtain ⟨hpoint, hunit⟩ := List.forall_mem_cons.mp htime
  refine List.forall_mem_append.mpr ⟨hverdict, List.forall_mem_cons.mpr ⟨hopen, ?_⟩⟩
  exact List.forall_mem_append.mpr ⟨Duration.forall_mem_secondsText hdigit hpoint _, hunit⟩

/-- Only a failed linter has a number of errors on its status line. -/
theorem errors_ending (e : LogEntry) : countBefore "error".toList e.ending = if e.outcome = .failed then e.errors else 0 := by
  rw [ending]
  cases e.outcome with
  | success =>
    -- nothing there has the letter r
    have hletter : 'r' ∈ "error".toList := by decide
    have hverdict : ∀ c ∈ " successfully - ".toList, sameLetter 'r' c = false := forall_of_all (by decide)
    refine countBefore_eq_zero hletter (List.forall_mem_append.mpr ⟨hverdict, List.forall_mem_cons.mpr ⟨by decide, ?_⟩⟩)
    exact List.forall_mem_append.mpr ⟨Duration.forall_mem_secondsText (by decide) (by decide) _, forall_of_all (by decide)⟩
  | failed =>
    have hbefore : ∀ c ∈ ": Found ".toList, isDecimal c = false := forall_of_all (by decide)
    show countBefore "error".toList (": Found ".toList ++ (numeral e.errors ++ ' ' :: "error(s) - ".toList) ++ _) = e.errors
    rw [List.append_assoc, List.append_assoc, List.cons_append]
    exact countBefore_numeral e.errors_le hbefore rfl rfl

theorem warnings_ending (e : LogEntry) : countBefore "warning".toList e.ending = 0 := by
  -- nothing there has the letter w
  have hletter : 'w' ∈ "warning".toList := by decide
  refine countBefore_eq_zero hletter (forall_mem_ending (by decide) ?success ?found ?errors ?time e)
  all_goals exact forall_of_all (by decide)

/-- The time stands at the end. -/
theorem elapsed_ending (e : LogEntry) : elapsed e.ending = some (10 * e.hundredths) := by
  rw [ending]
  cases e.outcome with
  | success =>
    have hbefore : ∀ c ∈ " successfully - ".toList, c ≠ '(' := forall_of_all (by decide)
    exact elapsed_append hbefore e.hundredths_lt
  | failed =>
    -- the first bracket is that of the plural
    have hbefore : ∀ c ∈ ": Found ".toList ++ (numeral e.errors ++ " error".toList), c ≠ '(' :=
      List.forall_mem_append.mpr ⟨forall_of_all (by decide),
        List.forall_mem_append.mpr ⟨forall_mem_numeral (by decide) _, forall_of_all (by decide)⟩⟩
    have hbefore' : ∀ c ∈ 's' :: ") - ".toList, c ≠ '(' := forall_of_all (by decide)
    have hsplit : verdict .failed e.errors =
        (": Found ".toList ++ (numeral e.errors ++ " error".toList)) ++ '(' :: 's' :: ") - ".toList := by
      rw [List.append_assoc, List.append_assoc]
      rfl
    rw [hsplit, List.append_assoc, List.cons_append, List.cons_append, elapsed_append_bracket hbefore (by decide),
      ← List.cons_append]
    exact elapsed_append hbefore' e.hundredths_lt

/-- **A status line is read back.** -/
theorem status?_statusLine (e : LogEntry) : status? e.statusLine = some e.told := by
  obtain ⟨houtcome, -, hblank, -⟩ := e.mark_of_outcome
  have hname : ∀ c ∈ e.name, isNameChar c = true := fun c hc => isNameChar_of_isNameLetter (e.isNameLetter_of_mem c hc)
  have hstart : trimStart e.statusLine = e.statusLine := by
    refine trimStart_eq_self_iff.mpr fun c hc => ?_
    cases hc
    exact hblank
  have hskip : trimStart (' ' :: ("Linted [".toList ++ (e.descriptor ++ ("] files with [".toList ++ e.naming)))) =
      "Linted [".toList ++ (e.descriptor ++ ("] files with [".toList ++ e.naming)) := rfl
  -- each part of the line ends at a character that it cannot have
  have hdescriptor : (e.descriptor ++ ("] files with [".toList ++ e.naming)).takeWhile isDescriptorChar = e.descriptor :=
    takeWhile_append_cons e.isDescriptorChar_of_mem (by decide) _
  have hdescriptor' : (e.descriptor ++ ("] files with [".toList ++ e.naming)).dropWhile isDescriptorChar =
      "] files with [".toList ++ e.naming := dropWhile_append_cons e.isDescriptorChar_of_mem (by decide) _
  have hname' : e.naming.takeWhile isNameChar = e.name := takeWhile_append_cons hname (by decide) _
  have hname'' : e.naming.dropWhile isNameChar = [']'] ++ e.ending := dropWhile_append_cons hname (by decide) _
  rw [status?, hstart, statusLine]
  simp only [Option.bind_eq_bind, houtcome, Option.bind_some, hskip, after_append, hdescriptor, hdescriptor', hname', hname'',
    List.isEmpty_eq_false_iff.mpr e.descriptor_ne_nil, List.isEmpty_eq_false_iff.mpr e.name_ne_nil, Bool.or_self,
    Bool.false_eq_true, if_false, errors_ending, warnings_ending, elapsed_ending]
  rfl

/-- The first cell has a blank between mark and descriptor, but none at its ends. -/
theorem isCell_mark (e : LogEntry) : IsCell (e.mark :: ' ' :: e.descriptor) := by
  obtain ⟨-, -, hblank, hbar⟩ := e.mark_of_outcome
  refine ⟨List.cons_ne_nil _ _, trim_eq_self_iff.mpr ⟨?first, ?last⟩, ?bar, ?newline⟩
  case first =>
    intro c hc
    cases hc
    exact hblank
  case last =>
    intro c hc
    rw [List.getLast?_cons_cons, List.getLast?_cons_of_ne_nil e.descriptor_ne_nil] at hc
    exact (isSolid_of_isDescriptorChar (e.isDescriptorChar_of_mem c (List.mem_of_getLast? hc))).1
  case bar =>
    rw [List.mem_cons, List.mem_cons]
    rintro (h | h | h)
    · exact hbar h.symm
    · exact absurd h (by decide)
    · exact (isSolid_of_isDescriptorChar (e.isDescriptorChar_of_mem _ h)).2 rfl
  case newline =>
    rw [List.mem_cons, List.mem_cons]
    rintro (h | h | h)
    · exact e.mark_ne_newline h.symm
    · exact absurd h (by decide)
    · exact ne_newline_of_isSolid (isSolid_of_isDescriptorChar (e.isDescriptorChar_of_mem _ h)) rfl

/-- All cells may be written. -/
theorem isCell_cells (e : LogEntry) : ∀ text ∈ e.cells, IsCell text := by
  have hname : IsCell e.name :=
    isCell_of_forall e.name_ne_nil fun c hc => isSolid_of_isNameLetter (e.isNameLetter_of_mem c hc)
  have hnumeral (n : Nat) : IsCell (numeral n) := isCell_of_forall Nat.toDigits_ne_nil (forall_mem_numeral (by decide) n)
  have htime : IsCell (Duration.secondsText e.hundredths ++ ['s']) := by
    refine isCell_of_forall (by simp) (List.forall_mem_append.mpr ⟨?_, forall_of_all (by decide)⟩)
    exact Duration.forall_mem_secondsText (by decide) (by decide) _
  have hlist : IsCell "list".toList := isCell_of_forall (by decide) (forall_of_all (by decide))
  rw [cells]
  simp only [List.forall_mem_cons]
  exact ⟨e.isCell_mark, hname, hlist, hnumeral _, hnumeral _, hnumeral _, hnumeral _, htime, nofun⟩

/-- **A row is read back**, whatever spaces stand around its cells. -/
theorem row?_tableRow (e : LogEntry) (padding : Nat → Nat × Nat) : row? (tableRow padding e.cells) = some e.result := by
  have hcells : LogLine.cells (tableRow padding e.cells) = e.cells :=
    cells_tableRow padding (List.cons_ne_nil _ _) e.isCell_cells
  have hhead : (tableRow padding e.cells).head? = some '|' := rfl
  rw [row?, trim_tableRow, hhead, if_neg (by decide), hcells]
  unfold cells
  dsimp only
  rw [e.mark_of_outcome.2.1, Option.map_some, cellNumber_numeral e.files_le, cellNumber_numeral e.fixed_le,
    cellNumber_numeral e.errors_le, cellNumber_numeral e.warnings_le, List.head?_cons, Option.bind_some,
    cellTime_secondsText e.hundredths_lt]
  rfl

end LogEntry

end LintPlan
