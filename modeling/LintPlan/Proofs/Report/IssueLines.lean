import LintPlan.Proofs.Report.Gathering
import LintPlan.Proofs.Text.Cases
import Mathlib.Data.List.TakeWhile

/-!
# Lines about issues

A linter tells of an issue on a line of its own: file, line, column, severity and message. Before such a line is read as an
issue it must be taken for no line of another kind.

* **`severityWord_append`**, **`rule?_eq_some_iff`** — the severity in front of a message, and the rule at its end.
* **`IssueLine.issue?_text`** — a line is read as the issue that it tells of.
* **`IssueLine.ofLine_text`** — and it is taken for a text, unless the file's name begins with a plus sign.
* **`readLog_issueLines`** — so the issues behind a status line are kept up to the first such file, but none from there on
  (`pageIssue_not_kept`).
-/

namespace LintPlan

open Text

/-! ## §1 — words for severities

Facts on the list of words, found by going through it, and what they mean for a word at the front of a text. -/

namespace LogLine

variable {word message : List Char} {c : Char}

/-- Of two words for severities that begin alike the longer one stands first. -/
theorem severityWords_pairwise : severityWords.Pairwise fun first later => (afterWord first later).isSome = false := by
  decide +kernel

/-- What can be decided of every letter of the words. -/
theorem forall_severityWords {P : Char → Prop} [DecidablePred P]
    (h : (severityWords.flatten.all fun w => decide (P w)) = true) : ∀ word ∈ severityWords, ∀ w ∈ word, P w :=
  fun _ hword w hw => forall_of_all h w (List.mem_flatten_of_mem hword hw)

theorem blank_not_mem_severityWords : ∀ word ∈ severityWords, ∀ w ∈ word, sameLetter w ' ' = false :=
  forall_severityWords (by decide +kernel)

theorem fold_severityWords : ∀ word ∈ severityWords, ∀ w ∈ word, fold w = w ∧ w.toNat < 128 :=
  forall_severityWords (by decide +kernel)

/-- Only ASCII has an ASCII lower case. -/
theorem toNat_lt_of_toLower (h : c.toLower.toNat < 128) : c.toNat < 128 := by
  unfold Char.toLower at h
  split at h
  · next hupper =>
    have hhigh := UInt32.le_iff_toNat_le.mp hupper.2
    have hval : c.toNat = c.val.toNat := rfl
    simp at hhigh
    omega
  · exact h

theorem isLower_severityWords : ∀ word ∈ severityWords, ∀ w ∈ word, w.isLower = true :=
  forall_severityWords (by decide +kernel)

/-- What has a letter as its lower case is a letter. -/
theorem isAlpha_of_toLower (h : c.toLower.isLower = true) : c.isAlpha = true := by
  have hcases : c.isAlpha = (c.isUpper || c.isLower) := rfl
  unfold Char.toLower at h
  split at h
  · next hupper =>
    have hupper' : c.isUpper = true := decide_eq_true hupper
    rw [hcases, hupper', Bool.true_or]
  · rw [hcases, h, Bool.or_true]

/-- A word for a severity in any case of its letters. -/
def IsSeverity (word : List Char) : Prop := word.map Char.toLower ∈ severityWords

instance (word : List Char) : Decidable (IsSeverity word) := inferInstanceAs (Decidable (_ ∈ _))

theorem IsSeverity.map_fold (h : IsSeverity word) : word.map fold = (word.map Char.toLower).map fold := by
  rw [List.map_map]
  refine List.map_congr_left fun c hc => ?_
  obtain ⟨hfold, hlow⟩ := fold_severityWords _ h c.toLower (List.mem_map_of_mem hc)
  rw [Function.comp_apply, hfold, fold, if_pos (toNat_lt_of_toLower hlow)]

/-- A word has a first character, which is neither a blank nor a bracket. -/
theorem IsSeverity.exists_cons (h : IsSeverity word) :
    ∃ c rest, word = c :: rest ∧ isBlank c = false ∧ c ≠ '[' := by
  cases word with
  | nil => exact absurd h (by decide)
  | cons c rest =>
    have halpha : c.isAlpha = true :=
      isAlpha_of_toLower (isLower_severityWords _ h c.toLower (List.mem_map_of_mem List.mem_cons_self))
    refine ⟨c, rest, rfl, not_isBlank_of_isAlphanum (by rw [Char.isAlphanum, halpha, Bool.true_or]), ?_⟩
    rintro rfl
    exact absurd halpha (by decide)

/-- **A severity is read**, in any case of its letters, with the message behind it. -/
theorem severityWord_append (hword : IsSeverity word) (hmessage : trimStart message = message) :
    severityWord (word ++ ' ' :: message) = some (word, message) := by
  obtain ⟨c, rest, hcons, -, hbracket⟩ := hword.exists_cons
  have hbody : skipOptional '[' (word ++ ' ' :: message) = word ++ ' ' :: message := by
    rw [hcons, List.cons_append, skipOptional, if_neg hbracket]
  obtain ⟨before, behind, hsplit⟩ := List.append_of_mem hword
  -- words in front of it in the list are tried first and must fail
  have hfirst : ∀ first ∈ before, (afterWord first (word.map Char.toLower)).isSome = false := by
    have hpairwise := severityWords_pairwise
    rw [hsplit] at hpairwise
    exact fun first hfirst => (List.pairwise_append.mp hpairwise).2.2 first hfirst _ List.mem_cons_self
  rw [severityWord]
  dsimp only
  rw [hbody]
  refine List.findSome?_eq_some_iff.mpr ⟨before, word.map Char.toLower, behind, hsplit, ?found, ?passed⟩
  case found =>
    have hlength : (word ++ ' ' :: message).take (word.map Char.toLower).length = word := by
      rw [List.length_map, List.take_left]
    have hskip : trimStart (' ' :: message) = message := hmessage
    rw [afterWord_append hword.map_fold, hlength]
    show (if _ then some (word, trimStart (' ' :: message)) else none) = _
    rw [hskip]
    exact if_pos rfl
  case passed =>
    intro first hmem
    have hnone : afterWord first (word ++ ' ' :: message) = none := by
      refine Option.not_isSome_iff_eq_none.mp fun hsome => ?_
      have hknown : first ∈ severityWords := hsplit ▸ List.mem_append_left _ hmem
      have hfound := afterWord_isSome_of_append (blank_not_mem_severityWords first hknown) hsome
      rw [afterWord_isSome_congr hword.map_fold, hfirst first hmem] at hfound
      cases hfound
    rw [hnone]

/-! ## §2 — rules

A message may end with a rule in brackets of two kinds. -/

/-- A message with a rule's name between brackets at its end. -/
def Cites (opening closing : Char) (name : String) (message : List Char) : Prop :=
  name ≠ "" ∧ (∀ c ∈ name.toList, isRuleChar c = true) ∧ ∃ front, message = front ++ opening :: (name.toList ++ [closing])

theorem Cites.getLast? {opening closing : Char} {name : String} (h : Cites opening closing name message) :
    message.getLast? = some closing := by
  obtain ⟨-, -, front, rfl⟩ := h
  rw [← List.cons_append, ← List.append_assoc, List.getLast?_concat]

/-- A rule is found exactly where the message ends with one in brackets. -/
theorem ruleBetween_eq_some_iff {opening closing : Char} {name : String} (hopening : isRuleChar opening = false) :
    ruleBetween opening closing message = some name ↔ Cites opening closing name message := by
  constructor
  · intro h
    unfold ruleBetween at h
    split at h
    · next c rest hreverse =>
      dsimp only at h
      split at h
      · next hcond =>
        rw [Bool.and_eq_true, Bool.and_eq_true, decide_eq_true_iff, beq_iff_eq, Bool.not_eq_true',
          List.isEmpty_eq_false_iff] at hcond
        obtain ⟨⟨rfl, hne⟩, hhead⟩ := hcond
        obtain ⟨front, hfront⟩ := List.head?_eq_some_iff.mp hhead
        cases h
        rw [Cites, String.toList_ofList]
        refine ⟨?_, fun d hd => List.mem_takeWhile_imp (List.mem_reverse.mp hd), front.reverse, ?_⟩
        · intro hempty
          have htoList := congrArg String.toList hempty
          rw [String.toList_ofList] at htoList
          exact hne (List.reverse_eq_nil_iff.mp htoList)
        · have hrest : rest = rest.takeWhile isRuleChar ++ opening :: front := by
            rw [← hfront, List.takeWhile_append_dropWhile]
          have hmessage : message = (c :: (rest.takeWhile isRuleChar ++ opening :: front)).reverse := by
            rw [← hrest, ← hreverse, List.reverse_reverse]
          generalize rest.takeWhile isRuleChar = run at hmessage
          rw [hmessage]
          simp
      · cases h
    · cases h
  · rintro ⟨hne, hchars, front, rfl⟩
    have hreverse : (front ++ opening :: (name.toList ++ [closing])).reverse =
        closing :: (name.toList.reverse ++ opening :: front.reverse) := by simp
    -- the rule is read backwards from the closing bracket
    have hchars' : ∀ c ∈ name.toList.reverse, isRuleChar c = true := fun c hc => hchars c (List.mem_reverse.mp hc)
    have hne' : name.toList.reverse.isEmpty = false := by
      rw [List.isEmpty_eq_false_iff, Ne, List.reverse_eq_nil_iff]
      intro hnil
      exact hne (String.toList_eq_nil_iff.mp hnil)
    unfold ruleBetween
    rw [hreverse]
    dsimp only
    rw [takeWhile_append_cons hchars' hopening, dropWhile_append_cons hchars' hopening, hne', List.reverse_reverse,
      String.ofList_toList]
    exact if_pos (by simp)

/-- **The rule of a message** is the name in round or square brackets at its end. `IssueLine.issue` gives the rule as the scanner
finds it; this is what that means, without the scanner. -/
theorem rule?_eq_some_iff {name : String} :
    rule? message = some name ↔ Cites '(' ')' name message ∨ Cites '[' ']' name message := by
  have hround := @ruleBetween_eq_some_iff message '(' ')' name (by decide)
  have hsquare := @ruleBetween_eq_some_iff message '[' ']' name (by decide)
  rw [rule?, ← hround, ← hsquare]
  cases h : ruleBetween '(' ')' message with
  | none =>
    rw [or_iff_right nofun]
    rfl
  | some found =>
    -- a message does not end with brackets of both kinds
    have hlast : message.getLast? = some ')' := ((ruleBetween_eq_some_iff (by decide)).mp h).getLast?
    have hnone : ruleBetween '[' ']' message ≠ some name := by
      intro hsome
      rw [(hsquare.mp hsome).getLast?] at hlast
      cases hlast
    rw [or_iff_left hnone]
    rfl

end LogLine

/-! ## §3 — one line

A line that is put together from its parts is taken apart again, and it is not taken for a line of another kind. -/

open LogLine

/-- A line about an issue with all its parts. -/
structure IssueLine where
  /-- The file. -/
  file : List Char
  /-- The digits of the line's number. -/
  line : List Char
  /-- The digits of the column's number. -/
  column : List Char
  /-- The word for the severity. -/
  severity : List Char
  /-- What the linter says. -/
  message : List Char
  isFileChar_of_mem : ∀ c ∈ file, isFileChar c = true
  looksLikePath_file : looksLikePath file = true
  line_ne_nil : line ≠ []
  isDigit_of_mem_line : ∀ c ∈ line, c.isDigit = true
  line_le : digitsValue line ≤ maxWord32
  column_ne_nil : column ≠ []
  isDigit_of_mem_column : ∀ c ∈ column, c.isDigit = true
  column_le : digitsValue column ≤ maxWord32
  isSeverity : IsSeverity severity
  message_ne_nil : message ≠ []
  trim_message : trim message = message
  newline_not_mem_message : '\n' ∉ message

namespace IssueLine

variable (i : IssueLine)

/-- The line behind the place. -/
def said : List Char := i.severity ++ ' ' :: i.message

/-- The line as it is printed. -/
def text : List Char := i.file ++ ':' :: (i.line ++ ':' :: (i.column ++ ':' :: ' ' :: i.said))

/-- The issue that it tells of. -/
def issue : Issue where
  file := String.ofList i.file
  line := some (digitsValue i.line)
  column := some (digitsValue i.column)
  severity := .ofWord (String.ofList i.severity)
  rule := rule? i.message
  message := String.ofList i.message
  fixable := saysFixable i.message

variable {i : IssueLine}

theorem file_ne_nil (i : IssueLine) : i.file ≠ [] := by
  intro hnil
  have hpath := i.looksLikePath_file
  rw [hnil] at hpath
  cases hpath

theorem trimEnd_text (i : IssueLine) : trimEnd i.text = i.text := by
  have hsplit : i.text =
      (i.file ++ ':' :: (i.line ++ ':' :: (i.column ++ ':' :: ' ' :: (i.severity ++ [' '])))) ++ i.message := by
    simp [text, said]
  refine trimEnd_eq_self_iff.mpr fun c hc => (trim_eq_self_iff.mp i.trim_message).2 c ?_
  rwa [hsplit, List.getLast?_append_of_ne_nil _ i.message_ne_nil] at hc

theorem severityWord_said (i : IssueLine) : severityWord i.said = some (i.severity, i.message) :=
  severityWord_append i.isSeverity (trimStart_eq_self_iff.mpr (trim_eq_self_iff.mp i.trim_message).1)

theorem trimStart_said (i : IssueLine) : trimStart (' ' :: i.said) = i.said := by
  obtain ⟨c, more, hseverity, hblank, -⟩ := i.isSeverity.exists_cons
  show trimStart i.said = i.said
  rw [said, hseverity]
  refine trimStart_eq_self_iff.mpr fun d hd => ?_
  cases hd
  exact hblank

theorem column?_text (i : IssueLine) (more : List Char) :
    column? (':' :: (i.column ++ ':' :: more)) = some (i.column, ':' :: more) := by
  have hdigits : ∀ c ∈ i.column, isDecimal c = true := fun c hc => isDecimal_of_isDigit (i.isDigit_of_mem_column c hc)
  have hcolon : isDecimal ':' = false := by decide
  rw [column?, takeWhile_append_cons hdigits hcolon, dropWhile_append_cons hdigits hcolon]
  refine if_neg ?_
  rw [List.isEmpty_iff]
  exact i.column_ne_nil

/-- **The line is read as its issue.** -/
theorem issue?_text (i : IssueLine) : issue? i.text = some i.issue := by
  have hcolon : isFileChar ':' = false := by decide
  have hcolon' : isDecimal ':' = false := by decide
  have hdigits : ∀ c ∈ i.line, isDecimal c = true := fun c hc => isDecimal_of_isDigit (i.isDigit_of_mem_line c hc)
  have hafter (rest : List Char) : after [':'] (':' :: rest) = some rest := rfl
  have hskip : skipOptional ':' (':' :: ' ' :: i.said) = ' ' :: i.said := rfl
  have hblank : ((' ' :: i.said).head?.map isBlank).getD false = true := rfl
  have hsaid : i.said.isEmpty = false := by
    rw [List.isEmpty_eq_false_iff, said]
    exact List.append_ne_nil_of_right_ne_nil _ (List.cons_ne_nil _ _)
  rw [issue?, trimEnd_text, text]
  -- part by part, from the file to the message
  simp only [Option.bind_eq_bind, takeWhile_append_cons i.isFileChar_of_mem hcolon,
    dropWhile_append_cons i.isFileChar_of_mem hcolon, hafter, Option.bind_some, takeWhile_append_cons hdigits hcolon',
    dropWhile_append_cons hdigits hcolon', column?_text, hskip, trimStart_said, severityWord_said, Option.getD_some]
  rw [hblank, hsaid, i.looksLikePath_file, List.isEmpty_eq_false_iff.mpr i.file_ne_nil,
    List.isEmpty_eq_false_iff.mpr i.line_ne_nil, i.trim_message,
    readNumeral_of_isDigit i.line_ne_nil i.isDigit_of_mem_line i.line_le,
    readNumeral_of_isDigit i.column_ne_nil i.isDigit_of_mem_column i.column_le]
  rfl

theorem isFileChar_cases {c : Char} (h : isFileChar c = true) : isBlank c = false ∧ c ≠ '|' := by
  rw [isFileChar, Bool.not_eq_true', Bool.or_eq_false_iff] at h
  refine ⟨h.1, ?_⟩
  rintro rfl
  exact absurd h.2 (by decide)

theorem exists_file (i : IssueLine) : ∃ c rest, i.file = c :: rest ∧ isBlank c = false ∧ c ≠ '|' := by
  obtain ⟨c, rest, hfile⟩ := List.exists_cons_of_ne_nil i.file_ne_nil
  exact ⟨c, rest, hfile, isFileChar_cases (i.isFileChar_of_mem c (hfile ▸ List.mem_cons_self))⟩

theorem trimStart_text (i : IssueLine) : trimStart i.text = i.text := by
  obtain ⟨c, rest, hfile, hblank, -⟩ := i.exists_file
  refine trimStart_eq_self_iff.mpr fun d hd => ?_
  rw [text, hfile] at hd
  cases hd
  exact hblank

theorem head?_text (i : IssueLine) : i.text.head? = i.file.head? := List.head?_append_of_ne_nil _ i.file_ne_nil

/-- The line is no status line: in one of those there is a blank before any colon. -/
theorem status?_text (i : IssueLine) : status? i.text = none := by
  obtain ⟨c, rest, hfile, -⟩ := i.exists_file
  have hrest : ∀ c ∈ rest, isFileChar c = true := fun d hd => i.isFileChar_of_mem d (hfile ▸ List.mem_cons_of_mem c hd)
  obtain ⟨behind, htext⟩ : ∃ behind, i.text = c :: (rest ++ ':' :: behind) :=
    ⟨i.line ++ ':' :: (i.column ++ ':' :: ' ' :: i.said), by rw [text, hfile, List.cons_append]⟩
  have hstart : trimStart (rest ++ ':' :: behind) = rest ++ ':' :: behind := by
    refine trimStart_eq_self_iff.mpr fun d hd => ?_
    cases rest with
    | nil =>
      cases hd
      decide
    | cons e rest =>
      cases hd
      exact (isFileChar_cases (hrest _ List.mem_cons_self)).1
  -- what stands in front of the colon has no blank, and the words of a status line have one
  have hafter : after "Linted [".toList (rest ++ ':' :: behind) = none := by
    cases h : after "Linted [".toList (rest ++ ':' :: behind) with
    | none => rfl
    | some more =>
      have hword : ∀ c ∈ "Linted".toList, isFileChar c = true := forall_of_all (by decide)
      have hline : rest ++ ':' :: behind = "Linted [".toList ++ more := eq_append_of_after h
      have hsplit : "Linted [".toList ++ more = "Linted".toList ++ ' ' :: '[' :: more := rfl
      have hdrop := congrArg (List.dropWhile isFileChar) (hline.trans hsplit)
      rw [dropWhile_append_cons hrest (by decide), dropWhile_append_cons hword (by decide)] at hdrop
      exact absurd (List.cons.inj hdrop).1 (by decide)
  rw [status?, i.trimStart_text, htext]
  dsimp only
  rw [hstart, hafter]
  cases outcomeOfMark c <;> rfl

theorem row?_text (i : IssueLine) : row? i.text = none := by
  obtain ⟨c, rest, hfile, -, hbar⟩ := i.exists_file
  have htrim : trim i.text = i.text := by rw [trim, i.trimStart_text, i.trimEnd_text]
  have hhead : (i.text.head? != some '|') = true := by
    rw [head?_text, hfile, List.head?_cons, bne_iff_ne]
    exact fun heq => hbar (Option.some.inj heq)
  rw [row?, htrim, if_pos hhead]

/-- Does the line begin like the border of a table? -/
def LooksLikeBorder (i : IssueLine) : Prop := i.file.head? = some '+'

instance (i : IssueLine) : Decidable i.LooksLikeBorder := inferInstanceAs (Decidable (_ = _))

/-- **The line is a text, unless the file's name begins like a border.** -/
theorem ofLine_text (i : IssueLine) : LogLine.ofLine i.text = if i.LooksLikeBorder then .border else .text i.text := by
  obtain ⟨c, rest, hfile, -, hbar⟩ := i.exists_file
  have hborder : isBorder i.text = true ↔ i.LooksLikeBorder := by
    rw [isBorder, i.trimStart_text, head?_text, LooksLikeBorder, hfile, List.head?_cons, Option.some_inj]
    show (c == '|' || c == '+') = true ↔ c = '+'
    rw [Bool.or_eq_true, beq_iff_eq, beq_iff_eq, or_iff_right hbar]
  rw [LogLine.ofLine, i.status?_text, i.row?_text]
  dsimp only
  split
  · next h => rw [if_pos (hborder.mp h)]
  · next h => rw [if_neg (mt hborder.mpr h)]

end IssueLine

/-! ## §4 — lines about issues behind a status line

From one line to any number of them. -/

namespace LogState

variable {s : LogState} {r : LinterResult}

theorem step_text (i : IssueLine) (r : LinterResult) (hi : ¬ i.LooksLikeBorder) :
    (⟨[r], some r.name⟩ : LogState).step i.text = ⟨[{ r with issues := i.issue :: r.issues }], some r.name⟩ := by
  rw [step, i.ofLine_text, if_neg hi]
  dsimp only
  rw [i.issue?_text]
  show (⟨LinterResult.addIssue r.name i.issue [r], some r.name⟩ : LogState) = _
  rw [LinterResult.addIssue, if_pos rfl]

/-- Without a linter whose issues come next, lines about issues change nothing. -/
theorem foldl_step_of_current (hs : s.current = none) (lines : List IssueLine) :
    (lines.map IssueLine.text).foldl step s = s := by
  obtain ⟨results, current⟩ := s
  cases hs
  induction lines with
  | nil => rfl
  | cons i lines ih =>
    have hstep : (⟨results, none⟩ : LogState).step i.text = ⟨results, none⟩ := by
      rw [step, i.ofLine_text]
      by_cases hi : i.LooksLikeBorder
      · rw [if_pos hi]
      · rw [if_neg hi]
    rw [List.map_cons, List.foldl_cons, hstep, ih]

/-- **Lines about issues are kept up to the first that looks like a border.** -/
theorem results_foldl_step (lines : List IssueLine) (r : LinterResult) :
    ((lines.map IssueLine.text).foldl step ⟨[r], some r.name⟩).results =
      [{ r with issues := ((lines.takeWhile fun i => ¬ i.LooksLikeBorder).map IssueLine.issue).reverse ++ r.issues }] := by
  induction lines generalizing r with
  | nil => rfl
  | cons i lines ih =>
    rw [List.map_cons, List.foldl_cons]
    by_cases hi : i.LooksLikeBorder
    · have hstep : (⟨[r], some r.name⟩ : LogState).step i.text = ⟨[r], none⟩ := by
        rw [step, i.ofLine_text, if_pos hi]
      rw [hstep, foldl_step_of_current rfl, List.takeWhile_cons_of_neg (by simpa using hi)]
      rfl
    · have hrest := ih { r with issues := i.issue :: r.issues }
      rw [step_text i r hi, List.takeWhile_cons_of_pos (by simpa using hi)]
      rw [hrest, List.map_cons, List.reverse_cons, List.append_assoc]
      rfl

end LogState

/-- **Every line about an issue is kept**, as the issue that it tells of, up to the first one whose file looks like a
border. -/
theorem readLog_issueLines {status output : List Char} {r : LinterResult} (lines : List IssueLine)
    (hstatus : LogLine.status? status = some r) (houtput : Text.lines output = status :: lines.map IssueLine.text) :
    readLog output = [{ r with issues := (lines.takeWhile fun i => ¬ i.LooksLikeBorder).map IssueLine.issue }] := by
  have hkind : LogLine.ofLine status = .status r := by rw [LogLine.ofLine, hstatus]
  have hfirst : (⟨[], none⟩ : LogState).step status = ⟨[r], some r.name⟩ := by
    rw [LogState.step, hkind]
    rfl
  have hrecord : (LogLine.ofLine status).record? = some r := by
    rw [hkind]
    rfl
  have hissues : r.issues = [] := LogLine.issues_of_ofLine hrecord
  rw [readLog, houtput, List.foldl_cons, hfirst, LogState.read, LogState.results_foldl_step, hissues, List.append_nil,
    List.map_singleton, List.reverse_reverse]

/-- The status line of a linter that failed. -/
def eslintFailed : List Char := "❌ Linted [JAVASCRIPT] files with [eslint]: Found 2 error(s) - (0.50s)".toList

/-- A line about a page of a site, with a name as some frameworks want it. -/
def pageIssue : IssueLine where
  file := "+page.svelte".toList
  line := "3".toList
  column := "7".toList
  severity := "error".toList
  message := "'x' is not defined (no-undef)".toList
  isFileChar_of_mem := forall_of_all (by decide)
  looksLikePath_file := by decide +kernel
  line_ne_nil := by decide
  isDigit_of_mem_line := forall_of_all (by decide)
  line_le := by decide
  column_ne_nil := by decide
  isDigit_of_mem_column := forall_of_all (by decide)
  column_le := by decide
  isSeverity := by decide +kernel
  message_ne_nil := by decide
  trim_message := by decide +kernel
  newline_not_mem_message := by decide

/-- A line about another file. -/
def appIssue : IssueLine :=
  { pageIssue with
    file := "src/app.js".toList
    line := "1".toList
    column := "01".toList
    severity := "Warning".toList
    message := "y is unused".toList
    isFileChar_of_mem := forall_of_all (by decide)
    looksLikePath_file := by decide +kernel
    line_ne_nil := by decide
    isDigit_of_mem_line := forall_of_all (by decide)
    line_le := by decide
    column_ne_nil := by decide
    isDigit_of_mem_column := forall_of_all (by decide)
    column_le := by decide
    isSeverity := by decide +kernel
    message_ne_nil := by decide
    trim_message := by decide +kernel
    newline_not_mem_message := by decide }

theorem readLog_issueLines_app :
    LogLine.status? eslintFailed = some ⟨"eslint", .failed, 0, 2, 0, 0, some 500, []⟩ ∧
      Text.lines (eslintFailed ++ "\nsrc/app.js:1:01: Warning y is unused\n".toList) = [eslintFailed, appIssue.text] ∧
      readLog (eslintFailed ++ "\nsrc/app.js:1:01: Warning y is unused\n".toList) =
        [⟨"eslint", .failed, 0, 2, 0, 0, some 500, [⟨"src/app.js", some 1, some 1, .high, none, "y is unused", false⟩]⟩] := by
  have hstatus : LogLine.status? eslintFailed = some ⟨"eslint", .failed, 0, 2, 0, 0, some 500, []⟩ := by decide +kernel
  have hlines : Text.lines (eslintFailed ++ "\nsrc/app.js:1:01: Warning y is unused\n".toList) =
      [eslintFailed, appIssue.text] := by decide +kernel
  refine ⟨hstatus, hlines, (readLog_issueLines [appIssue] hstatus hlines).trans ?_⟩
  decide

/-- **A file whose name begins with a plus sign loses its issue**, and all those behind it. -/
theorem pageIssue_not_kept :
    LogLine.status? eslintFailed = some ⟨"eslint", .failed, 0, 2, 0, 0, some 500, []⟩ ∧
      Text.lines (eslintFailed ++ '\n' :: (pageIssue.text ++ '\n' :: appIssue.text)) =
        eslintFailed :: [pageIssue, appIssue].map IssueLine.text ∧
      readLog (eslintFailed ++ '\n' :: (pageIssue.text ++ '\n' :: appIssue.text)) =
        [⟨"eslint", .failed, 0, 2, 0, 0, some 500, []⟩] := by
  decide +kernel

end LintPlan
