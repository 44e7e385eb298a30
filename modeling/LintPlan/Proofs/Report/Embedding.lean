import LintPlan.Proofs.Json.Records
import LintPlan.Proofs.Text.ReadingBack
import LintPlan.Report.Output

/-!
# Reports among other output

A report is found by a line that starts like an object and names its key. Where it ends is for its reader to see, so
that the text behind it does not matter, be it on the same line or not.

* **`report_closes`** — a report reads the same in a longer text: its linters and their issues are lists and records,
  which end with a bracket of their own.
* **`Embedding`** — an object among other output: whole lines before it, blanks in front of it, any text behind it.
* **`embedded_report_wins`** — the results of an output are those of the report in it, as long as the first line of the
  report names its key and no line before it looks like the start of one.
* **`read_of_no_start`** — without such a line nothing of a report is read, even if there is one.
-/

namespace LintPlan

open Json Json.Reading

namespace EmbeddedReport

/-! ## §1 — the reader of reports

A report is read up to its last bracket, whatever follows. -/

section
variable {more : List Char} {fuel fuel' : Nat}

/-- An issue closes with its bracket. -/
theorem issue_closes (h : fuel ≤ fuel') : Closes more (issue fuel) (issue fuel') := by
  have htext : ReadsOn more text text := text_closes.readsOn
  have hword : ReadsOn more word32 word32 := nat_readsOn _ _
  have hfields : List.Forall₂ (Field.ReadsOn more) issueFields issueFields :=
    .cons (Field.needed_readsOn htext _ _ _) <|
    .cons (Field.optional_readsOn (option_readsOn hword) _ _ _) <|
    .cons (Field.optional_readsOn (option_readsOn hword) _ _ _) <|
    .cons (Field.optional_readsOn (option_readsOn htext) _ _ _) <|
    .cons (Field.optional_readsOn (option_readsOn htext) _ _ _) <|
    .cons (Field.optional_readsOn htext _ _ _) <|
    .cons (Field.optional_readsOn bool_readsOn _ _ _) .nil
  exact record_closes hfields h _ _

/-- So does the result of a linter, with the issues inside. -/
theorem result_closes (h : fuel ≤ fuel') : Closes more (result fuel) (result fuel') := by
  have htext : ReadsOn more text text := text_closes.readsOn
  have hcount : ReadsOn more count count := nat_readsOn _ _
  have hissues : ReadsOn more (list fuel (issue fuel)) (list fuel' (issue fuel')) :=
    (list_closes (issue_closes h).readsOn h).readsOn
  have hfields : List.Forall₂ (Field.ReadsOn more) (resultFields fuel) (resultFields fuel') :=
    .cons (Field.needed_readsOn htext _ _ _) <|
    .cons (Field.optional_readsOn (option_readsOn htext) _ _ _) <|
    .cons (Field.optional_readsOn hcount _ _ _) <|
    .cons (Field.optional_readsOn hcount _ _ _) <|
    .cons (Field.optional_readsOn hcount _ _ _) <|
    .cons (Field.optional_readsOn hcount _ _ _) <|
    .cons (Field.optional_readsOn (option_readsOn float_readsOn) _ _ _) <|
    .cons (Field.optional_readsOn hissues _ _ _) .nil
  exact record_closes hfields h _ _

/-- **A report reads the same in a longer text.** -/
theorem report_closes (h : fuel ≤ fuel') : Closes more (report fuel) (report fuel') := by
  have hlinters : ReadsOn more (list fuel (result fuel)) (list fuel' (result fuel')) :=
    (list_closes (result_closes h).readsOn h).readsOn
  exact record_closes (.cons (Field.needed_readsOn hlinters _ _ _) .nil) h _ _

end

/-- What follows a report does not matter. -/
theorem read_append {object : List Char} {results : List LinterResult} (h : read object = .ok results)
    (after : List Char) : read (object ++ after) = .ok results := by
  obtain ⟨⟨reported, c⟩, hreport, hresults⟩ := map_eq_ok h
  have hfuel : 2 * object.length + 2 ≤ 2 * (object ++ after).length + 2 := by
    rw [List.length_append]
    omega
  have hmore : report _ ((Cursor.ofText object).followedBy after) = _ := (report_closes hfuel hreport).2
  show (report _ ((Cursor.ofText object).followedBy after)).map _ = _
  rw [hmore]
  exact congrArg Except.ok hresults

/-! ## §2 — the line on which a report starts

Lines are tried from the front. -/

/-- Lines that start no report are passed over. -/
theorem locateIn_append {ls : List (List Char)} (h : ∀ l ∈ ls, isStart l = false) (rest : List (List Char)) :
    locateIn (ls ++ rest) = locateIn rest := by
  induction ls with
  | nil => rfl
  | cons l ls ih =>
    have hl : isStart l = false := h l List.mem_cons_self
    have hls : ∀ x ∈ ls, isStart x = false := fun x hx => h x (List.mem_cons_of_mem _ hx)
    rw [List.cons_append, locateIn, hl]
    exact ih hls

/-- Without a line on which a report may start there is no report. -/
theorem locate_eq_none {output : List Char} (h : ∀ l ∈ Text.splitOn '\n' output, isStart l = false) :
    locate output = none := by
  have hskip := locateIn_append h []
  rwa [List.append_nil] at hskip

end EmbeddedReport

open EmbeddedReport

theorem OutputReading.read_of_no_start {output : List Char}
    (h : ∀ l ∈ Text.splitOn '\n' output, isStart l = false) : read output = ofLog output [] := by
  rw [read, locate_eq_none h]

/-! ## §3 — an object among other output

The shape of an output with an object in it, and what is read from it. -/

/-- An object among other output, the first character of a line but for blanks. -/
structure Embedding where
  /-- The lines before it. -/
  before : List (List Char)
  /-- The blanks in front of it. -/
  indent : List Char
  /-- The object without its opening brace. -/
  inside : List Char
  /-- The text behind it. -/
  after : List Char
  newline_not_mem_before : ∀ l ∈ before, '\n' ∉ l
  newline_not_mem_indent : '\n' ∉ indent
  indent_blank : indent.all Text.isBlank = true

namespace Embedding

variable (e : Embedding)

def object : List Char := '\x7b' :: e.inside

/-- The object and what follows it. -/
def body : List Char := e.object ++ e.after

/-- The whole output. -/
def output : List Char := e.before.flatMap (· ++ ['\n']) ++ (e.indent ++ e.body)

/-- The line on which the object starts. -/
def firstLine : List Char := e.indent ++ e.body.takeWhile (· ≠ '\n')

theorem body_eq_cons : e.body = '\x7b' :: (e.inside ++ e.after) := rfl

/-- Without its blanks, the first line is that of the body. -/
theorem trimStart_firstLine : Text.trimStart e.firstLine = e.body.takeWhile (· ≠ '\n') := by
  have hbrace : Text.isBlank '\x7b' = false := rfl
  rw [firstLine, Text.trimStart, List.dropWhile_append_of_pos (List.all_eq_true.1 e.indent_blank), body_eq_cons]
  rw [List.takeWhile_cons_of_pos (by decide), List.dropWhile_cons_of_neg (by simp [hbrace])]

theorem isStart_firstLine (hmark : Text.contains mark e.firstLine = true) : isStart e.firstLine = true := by
  rw [isStart, e.trimStart_firstLine, hmark, body_eq_cons, List.takeWhile_cons_of_pos (by decide)]
  rfl

/-- The text from the object on, if the line on which it starts is the first one on which a report may start. -/
theorem locate_output (hearlier : ∀ l ∈ e.before, isStart l = false)
    (hmark : Text.contains mark e.firstLine = true) : locate e.output = some e.body := by
  obtain ⟨pieces, hpieces⟩ := Text.splitOn_eq_cons '\n' e.body
  have hlines : Text.splitOn '\n' (e.indent ++ e.body) = e.firstLine :: pieces :=
    Text.splitOn_append_of_not_mem e.newline_not_mem_indent hpieces
  rw [locate, output, Text.splitOn_lines_append e.newline_not_mem_before, hlines, locateIn_append hearlier, locateIn,
    e.isStart_firstLine hmark, if_pos rfl, e.trimStart_firstLine, ← hpieces, Text.join_splitOn]

end Embedding

/-- **The results of an output are those of the report in it**, whatever stands before and behind the report, as long
as its first line names its key and no line before it looks like the start of a report. -/
theorem OutputReading.embedded_report_wins (e : Embedding) {results : List LinterResult}
    (hearlier : ∀ l ∈ e.before, isStart l = false) (hmark : Text.contains mark e.firstLine = true)
    (hreport : EmbeddedReport.read e.object = .ok results) : read e.output = ⟨results, []⟩ := by
  have hbody : EmbeddedReport.read e.body = .ok results := read_append hreport e.after
  rw [read, e.locate_output hearlier hmark]
  dsimp only
  rw [hbody]

/-- A report over three lines, between a log and a farewell. The object before it has another key. -/
def Embedding.compactReport : Embedding where
  before := ["starting".toList, "  \x7b\"tools\": [\"eslint\"]\x7d".toList]
  indent := "  ".toList
  inside := "\"linters\": [\n  \x7b\"name\": \"eslint\", \"errors\": 2\x7d,\n  \x7b\"name\": \"ruff\"\x7d]\x7d".toList
  after := " 3 files\nbye".toList
  newline_not_mem_before := by decide +kernel
  newline_not_mem_indent := by decide
  indent_blank := rfl

/-- Another object stands in front, whose line does not count, and text follows behind the report on its last line. -/
theorem OutputReading.embedded_report_wins_compactReport :
    (∀ l ∈ Embedding.compactReport.before, isStart l = false) ∧
      Text.contains mark Embedding.compactReport.firstLine = true ∧
      read Embedding.compactReport.output =
        ⟨[⟨"eslint", .failed, 0, 2, 0, 0, none, []⟩, ⟨"ruff", .success, 0, 0, 0, 0, none, []⟩], []⟩ := by
  have hearlier : ∀ l ∈ Embedding.compactReport.before, isStart l = false := by decide
  have hmark : Text.contains mark Embedding.compactReport.firstLine = true := by decide
  have hreport : EmbeddedReport.read Embedding.compactReport.object =
      .ok [⟨"eslint", .failed, 0, 2, 0, 0, none, []⟩, ⟨"ruff", .success, 0, 0, 0, 0, none, []⟩] := by decide
  exact ⟨hearlier, hmark, embedded_report_wins Embedding.compactReport hearlier hmark hreport⟩

/-- The same results as printers lay them out, with the key on the second line; nothing else is in the output. -/
def Embedding.indentedReport : Embedding where
  before := []
  indent := []
  inside := "\n  \"linters\": [\n    \x7b\"name\": \"eslint\", \"errors\": 2\x7d\n  ]\n\x7d".toList
  after := ['\n']
  newline_not_mem_before := nofun
  newline_not_mem_indent := nofun
  indent_blank := rfl

/-- A report is missed if its key is not on its first line, though nothing stands before it. -/
theorem OutputReading.indented_report_missed :
    Embedding.indentedReport.before = [] ∧
      EmbeddedReport.read Embedding.indentedReport.object = .ok [⟨"eslint", .failed, 0, 2, 0, 0, none, []⟩] ∧
      Text.contains mark Embedding.indentedReport.firstLine = false ∧
      read Embedding.indentedReport.output = ⟨[], [.nothingRecognized]⟩ := by
  have hreport : EmbeddedReport.read Embedding.indentedReport.object =
      .ok [⟨"eslint", .failed, 0, 2, 0, 0, none, []⟩] := by decide
  have hmark : Text.contains mark Embedding.indentedReport.firstLine = false := by decide
  have hlines : ∀ l ∈ Text.splitOn '\n' Embedding.indentedReport.output, isStart l = false := by decide +kernel
  have hlog : ofLog Embedding.indentedReport.output [] = ⟨[], [.nothingRecognized]⟩ := by decide
  exact ⟨rfl, hreport, hmark, (read_of_no_start hlines).trans hlog⟩

end LintPlan
