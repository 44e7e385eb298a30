import LintPlan.Proofs.Report.Embedding
import LintPlan.Proofs.Report.Gathering
import LintPlan.Proofs.Report.PrintedLines

/-!
# Logs that are read back

A printed log has the status lines of all linters, and below them a table with one row for each, in any order. What its two
lines on a linter come to is all that was to be said.

* **`map_ofLine_lines`**, **`recordsOf_kinds`** — the kinds of the lines, and the two records of each linter.
* **`eq_result_of_gathers`** — the greater of two numbers is the one that both lines agree on.
* **`lines_text`** — the text of the log has its lines.
* **`read_text`** — so a printed log is read back.
-/

namespace LintPlan

open Text LogLine

/-! ## §1 — kinds of lines

Each line that is printed is taken for what it is. -/

namespace LogLine

/-- A mark that is none is not in front of a status line. -/
theorem status?_eq_none {c : Char} (hblank : isBlank c = false) (hmark : outcomeOfMark c = none) (cs : List Char) :
    status? (c :: cs) = none := by
  have hstart : trimStart (c :: cs) = c :: cs := by
    refine trimStart_eq_self_iff.mpr fun d hd => ?_
    cases hd
    exact hblank
  rw [status?, hstart]
  dsimp only
  rw [hmark]
  rfl

/-- The headings of the table. -/
def headings : List (List Char) :=
  ["Descriptor", "Linter", "Mode", "Files", "Fixed", "Errors", "Warnings", "Elapsed time"].map String.toList

/-- The line above the table. -/
def tableTop : List Char := "+----SUMMARY----+".toList

theorem isCell_headings : ∀ text ∈ headings, IsCell text := by
  have hne : ∀ text ∈ headings, text ≠ [] := by decide
  have htrimmed : ∀ text ∈ headings, trim text = text := by decide
  have hbar : ∀ text ∈ headings, '|' ∉ text ∧ '\n' ∉ text := by decide
  exact fun text htext => ⟨hne text htext, htrimmed text htext, (hbar text htext).1, (hbar text htext).2⟩

theorem ofLine_statusLine (e : LogEntry) : ofLine e.statusLine = .status e.told := by
  rw [ofLine, e.status?_statusLine]

theorem ofLine_tableRow (e : LogEntry) (padding : Nat → Nat × Nat) : ofLine (tableRow padding e.cells) = .row e.result := by
  have hstatus : status? (tableRow padding e.cells) = none := status?_eq_none (by decide) (by decide) _
  rw [ofLine, hstatus, e.row?_tableRow padding]

/-- The row of headings counts as a border. -/
theorem ofLine_headings (padding : Nat → Nat × Nat) : ofLine (tableRow padding headings) = .border := by
  have hstatus : status? (tableRow padding headings) = none := status?_eq_none (by decide) (by decide) _
  have hrow : row? (tableRow padding headings) = none := by
    have hhead : (tableRow padding headings).head? = some '|' := rfl
    rw [row?, trim_tableRow, hhead, if_neg (by decide), cells_tableRow padding (by decide) isCell_headings]
    rfl
  rw [ofLine, hstatus, hrow]
  rfl

theorem ofLine_tableTop : ofLine tableTop = .border := by
  have hstatus : status? tableTop = none := status?_eq_none (show isBlank '+' = false by decide) (by decide) _
  have hrow : row? tableTop = none := rfl
  rw [ofLine, hstatus, hrow]
  rfl

end LogLine

/-! ## §2 — a whole log

The general theorem on logs is applied to these lines. -/

/-- A log with its parts as they are printed. -/
structure PrintedLog where
  /-- What it says, in the order of the status lines. -/
  entries : List LogEntry
  /-- The spaces around the headings of the table. -/
  heading : Nat → Nat × Nat
  /-- The rows of the table, each with the spaces around its cells. -/
  rows : List (LogEntry × (Nat → Nat × Nat))
  entries_ne_nil : entries ≠ []
  names_nodup : (entries.map (·.name)).Nodup
  rows_perm : (rows.map Prod.fst).Perm entries

namespace PrintedLog

variable {log : PrintedLog} {e : LogEntry} {r : LinterResult} {output : List Char}

/-- The lines of the log. -/
def lines (log : PrintedLog) : List (List Char) :=
  log.entries.map LogEntry.statusLine ++
    (tableTop :: tableRow log.heading headings :: log.rows.map fun row => tableRow row.2 row.1.cells)

/-- The text of the log. -/
def text (log : PrintedLog) : List Char := log.lines.flatMap (· ++ ['\n'])

/-- What its lines are. -/
def kinds (log : PrintedLog) : List LogLine :=
  log.entries.map (fun e => .status e.told) ++ (.border :: .border :: log.rows.map fun row => .row row.1.result)

/-- The lines of a log are of the expected kinds. -/
theorem map_ofLine_lines (log : PrintedLog) : log.lines.map ofLine = log.kinds := by
  have hstatus : (log.entries.map LogEntry.statusLine).map ofLine = log.entries.map fun e => .status e.told := by
    rw [List.map_map]
    refine List.map_congr_left fun e _ => ?_
    rw [Function.comp_apply, ofLine_statusLine]
  have hrow : (log.rows.map fun row => tableRow row.2 row.1.cells).map ofLine =
      log.rows.map fun row => .row row.1.result := by
    rw [List.map_map]
    refine List.map_congr_left fun row _ => ?_
    rw [Function.comp_apply, ofLine_tableRow]
  rw [lines, List.map_append, hstatus, List.map_cons, List.map_cons, ofLine_tableTop, ofLine_headings, hrow, kinds]

theorem records_kinds (log : PrintedLog) :
    records log.kinds = log.entries.map LogEntry.told ++ log.rows.map fun row => row.1.result := by
  have hstatus : (record? ∘ fun e : LogEntry => .status e.told) = some ∘ LogEntry.told := rfl
  have hrow : (record? ∘ fun row : LogEntry × (Nat → Nat × Nat) => .row row.1.result) = some ∘ fun row => row.1.result := rfl
  rw [kinds, records, List.filterMap_append, List.filterMap_map, hstatus, List.filterMap_eq_map]
  show _ ++ List.filterMap record? (log.rows.map fun row => .row row.1.result) = _
  rw [List.filterMap_map, hrow, List.filterMap_eq_map]

/-- Of a list with distinct keys, one has the key of a member. -/
theorem filter_key_eq_singleton {β κ : Type} [DecidableEq κ] {key : β → κ} {l : List β} {x : β} (hnodup : (l.map key).Nodup)
    (hx : x ∈ l) : (l.filter fun y => key y = key x) = [x] := by
  induction l with
  | nil => exact absurd hx List.not_mem_nil
  | cons y l ih =>
    rw [List.map_cons, List.nodup_cons] at hnodup
    rw [List.filter_cons]
    rcases List.mem_cons.mp hx with rfl | hx
    · have hnone : (l.filter fun y => key y = key x) = [] := by
        refine List.filter_eq_nil_iff.mpr fun y hy hkey => hnodup.1 ?_
        exact List.mem_map.mpr ⟨y, hy, of_decide_eq_true hkey⟩
      rw [if_pos (decide_eq_true rfl), hnone]
    · have hne : key y ≠ key x := fun hkey => hnodup.1 (hkey ▸ List.mem_map_of_mem hx)
      rw [if_neg (by rwa [decide_eq_true_iff]), ih hnodup.2 hx]

/-- The linter's name as that of a result. -/
theorem nodup_names (log : PrintedLog) : (log.entries.map fun e => e.result.name).Nodup := by
  have hinjective : Function.Injective String.ofList := fun _ _ => String.ofList_injective
  have hnames := log.names_nodup.map hinjective
  rwa [List.map_map] at hnames

theorem map_result_rows (log : PrintedLog) :
    (log.rows.map fun row => row.1.result) = (log.rows.map Prod.fst).map LogEntry.result := by
  rw [List.map_map]
  rfl

/-- Each linter has two records, one of each kind. -/
theorem recordsOf_kinds (he : e ∈ log.entries) : recordsOf e.result.name log.kinds = [e.told, e.result] := by
  have hrows : ((log.rows.map Prod.fst).map fun e => e.result.name).Nodup :=
    (log.rows_perm.map _).nodup_iff.mpr log.nodup_names
  have htold : ((fun r : LinterResult => decide (r.name = e.result.name)) ∘ LogEntry.told) =
      fun x => decide (x.result.name = e.result.name) := rfl
  have hresult : ((fun r : LinterResult => decide (r.name = e.result.name)) ∘ LogEntry.result) =
      fun x => decide (x.result.name = e.result.name) := rfl
  rw [recordsOf, records_kinds, List.filter_append, map_result_rows, List.filter_map, List.filter_map, htold, hresult,
    filter_key_eq_singleton log.nodup_names he, filter_key_eq_singleton hrows (log.rows_perm.symm.subset he)]
  rfl

/-- The linters come in the order of the status lines. -/
theorem names_kinds (log : PrintedLog) :
    ((records log.kinds).map (·.name)).eraseDups = log.entries.map fun e => e.result.name := by
  have hmap : (records log.kinds).map (·.name) =
      (log.entries.map fun e => e.result.name) ++ (log.rows.map Prod.fst).map fun e => e.result.name := by
    rw [records_kinds, map_result_rows, List.map_append, List.map_map, List.map_map]
    rfl
  have hrows : ((log.rows.map Prod.fst).map fun e => e.result.name).removeAll
      (log.entries.map fun e => e.result.name) = [] := by
    refine List.filter_eq_nil_iff.mpr fun name hname hnew => ?_
    have hmem : name ∈ log.entries.map fun e => e.result.name := (log.rows_perm.map _).subset hname
    rw [List.elem_eq_true_of_mem hmem] at hnew
    cases hnew
  rw [hmap, List.eraseDups_append, hrows, eraseDups_of_nodup log.nodup_names]
  exact List.append_nil _

/-- No line is mere text, so there are no issues. -/
theorem isText_kinds (log : PrintedLog) : ∀ kind ∈ log.kinds, kind.isText = false := by
  intro kind hkind
  rcases List.mem_append.mp hkind with hkind | hkind
  · obtain ⟨e, -, rfl⟩ := List.mem_map.mp hkind
    rfl
  · rcases List.mem_cons.mp hkind with rfl | hkind
    · rfl
    · rcases List.mem_cons.mp hkind with rfl | hkind
      · rfl
      · obtain ⟨row, -, rfl⟩ := List.mem_map.mp hkind
        rfl

/-- What is gathered about a linter is all that is said. -/
theorem eq_result_of_gathers (he : e ∈ log.entries) (hname : r.name = e.result.name) (h : r.Gathers log.kinds) :
    r = e.result := by
  have hmerges := h.merges
  rw [hname, recordsOf_kinds he] at hmerges
  have houtcome : r.outcome = e.outcome := (Option.some.inj hmerges.outcome).symm
  have hfiles : r.files = e.files := hmerges.files.trans (Nat.zero_max _)
  have herrors : r.errors = e.errors := by
    have hmax : r.errors = max (max 0 (if e.outcome = .failed then e.errors else 0)) e.errors := hmerges.errors
    rw [hmax]
    split <;> omega
  have hwarnings : r.warnings = e.warnings := hmerges.warnings.trans (Nat.zero_max _)
  have hfixable : r.fixable = e.fixed := hmerges.fixable.trans (Nat.zero_max _)
  have hduration : r.duration = some (10 * e.hundredths) := hmerges.duration
  have hissues : r.issues = [] := h.issues.trans (issuesOf_of_isText log.isText_kinds)
  calc r = ⟨r.name, r.outcome, r.files, r.errors, r.warnings, r.fixable, r.duration, r.issues⟩ := rfl
    _ = e.result := by
      rw [hname, houtcome, hfiles, herrors, hwarnings, hfixable, hduration, hissues]
      rfl

/-- The log is read as what the rows say, in the order of the status lines. -/
theorem readLog_eq (h : Text.lines output = log.lines) : readLog output = log.entries.map LogEntry.result := by
  have hkinds : (Text.lines output).map ofLine = log.kinds := by rw [h, map_ofLine_lines]
  have hnames : (readLog output).map (·.name) = log.entries.map fun e => e.result.name := by
    rw [names_readLog, hkinds, names_kinds]
  have hlength : (readLog output).length = log.entries.length := by
    have hlengths := congrArg List.length hnames
    rwa [List.length_map, List.length_map] at hlengths
  refine List.ext_getElem (by rw [List.length_map, hlength]) fun i hi hi' => ?_
  have hname : (readLog output)[i].name = log.entries[i].result.name := by
    have hnames' := List.getElem_of_eq hnames (by rwa [List.length_map])
    rwa [List.getElem_map, List.getElem_map] at hnames'
  rw [List.getElem_map]
  exact eq_result_of_gathers (List.getElem_mem _) hname (hkinds ▸ gathers_of_mem_readLog (List.getElem_mem hi))

/-! ## §3 — the output

An output is searched for an embedded report first. A printed log has none. -/

/-- No line of the log begins like a report. -/
theorem head?_of_mem_lines (log : PrintedLog) :
    ∀ line ∈ log.lines, ∃ c, line.head? = some c ∧ isBlank c = false ∧ c ≠ '\x7b' := by
  intro line hline
  rcases List.mem_append.mp hline with hline | hline
  · obtain ⟨e, -, rfl⟩ := List.mem_map.mp hline
    refine ⟨e.mark, rfl, e.mark_of_outcome.2.2.1, ?_⟩
    unfold LogEntry.mark
    cases e.outcome <;> decide
  · rcases List.mem_cons.mp hline with rfl | hline
    · exact ⟨'+', rfl, by decide, by decide⟩
    · have hrow : line.head? = some '|' := by
        rcases List.mem_cons.mp hline with rfl | hline
        · rfl
        · obtain ⟨row, -, rfl⟩ := List.mem_map.mp hline
          rfl
      exact ⟨'|', hrow, by decide, by decide⟩

theorem isStart_eq_false {line : List Char} {c : Char} (h : line.head? = some c) (hblank : isBlank c = false)
    (hbrace : c ≠ '\x7b') : EmbeddedReport.isStart line = false := by
  have hstart : trimStart line = line := trimStart_eq_self_iff.mpr fun d hd => by
    rw [h] at hd
    exact Option.some.inj hd ▸ hblank
  rw [EmbeddedReport.isStart, hstart, h, Bool.and_eq_false_iff]
  exact .inl (beq_eq_false_iff_ne.mpr fun heq => hbrace (Option.some.inj heq))

/-- A return at the end does not change how a line starts. -/
theorem head?_of_head?_dropReturn {line : List Char} {c : Char} (h : (dropReturn line).head? = some c) :
    line.head? = some c := by
  rw [dropReturn] at h
  split at h
  · cases line with
    | nil => cases h
    | cons d line =>
      cases line with
      | nil => cases h
      | cons d' line => exact h
  · exact h

/-- A piece between line feeds is empty, or it is a line but for a carriage return. -/
theorem mem_lines_of_mem_splitOn {pieces : List (List Char)} {piece : List Char} (h : piece ∈ pieces) :
    piece = [] ∨ piece ∈ linesOfPieces pieces ∨ dropReturn piece ∈ linesOfPieces pieces := by
  induction pieces with
  | nil => exact absurd h List.not_mem_nil
  | cons first pieces ih =>
    cases pieces with
    | nil =>
      rw [List.mem_singleton.mp h, linesOfPieces, lastLine]
      cases first with
      | nil => exact .inl rfl
      | cons c first => exact .inr (.inl List.mem_cons_self)
    | cons next pieces =>
      rw [linesOfPieces, List.mem_cons, List.mem_cons]
      · rcases List.mem_cons.mp h with rfl | h
        · exact .inr (.inr (.inl rfl))
        · exact (ih h).imp_right (Or.imp .inr .inr)
      · nofun

/-- A log is read back if its lines are, however they are ended. -/
theorem read_of_lines (h : Text.lines output = log.lines) :
    OutputReading.read output = ⟨log.entries.map LogEntry.result, []⟩ := by
  have hlog := readLog_eq h
  have hne : (log.entries.map LogEntry.result).isEmpty = false := by
    rw [List.isEmpty_map, List.isEmpty_eq_false_iff]
    exact log.entries_ne_nil
  have hstart : ∀ piece ∈ splitOn '\n' output, EmbeddedReport.isStart piece = false := by
    intro piece hpiece
    rcases mem_lines_of_mem_splitOn hpiece with rfl | hline | hline
    · rfl
    · rw [← Text.lines, h] at hline
      obtain ⟨c, hc, hblank, hbrace⟩ := log.head?_of_mem_lines piece hline
      exact isStart_eq_false hc hblank hbrace
    · rw [← Text.lines, h] at hline
      obtain ⟨c, hc, hblank, hbrace⟩ := log.head?_of_mem_lines _ hline
      exact isStart_eq_false (head?_of_head?_dropReturn hc) hblank hbrace
  rw [OutputReading.read_of_no_start hstart, OutputReading.ofLog, hlog, hne]
  rfl

/-- A row fills one line. -/
theorem newline_not_mem_tableRow {texts : List (List Char)} (h : ∀ text ∈ texts, IsCell text) (padding : Nat → Nat × Nat) :
    '\n' ∉ tableRow padding texts := by
  rw [tableRow, List.mem_cons, List.mem_append, List.mem_singleton]
  rintro (hc | hc | hc)
  · exact absurd hc (by decide)
  · rcases mem_join hc with hc | ⟨cell, hcell, hc⟩
    · exact absurd hc (by decide)
    · obtain ⟨i, hi, rfl⟩ := List.mem_mapIdx.mp hcell
      rw [List.mem_append, List.mem_append, List.mem_replicate, List.mem_replicate] at hc
      rcases hc with ⟨-, hc⟩ | hc | ⟨-, hc⟩
      · exact absurd hc (by decide)
      · exact (h _ (List.getElem_mem hi)).newline_not_mem hc
      · exact absurd hc (by decide)
  · exact absurd hc (by decide)

/-- So does a status line. -/
theorem newline_not_mem_statusLine (e : LogEntry) : '\n' ∉ e.statusLine := by
  have hending : ∀ c ∈ e.ending, c ≠ '\n' := by
    refine LogEntry.forall_mem_ending (by decide) ?success ?found ?errors ?time e
    all_goals exact forall_of_all (by decide)
  have hname : ∀ c ∈ e.name, c ≠ '\n' :=
    fun c hc => ne_newline_of_isSolid (LogEntry.isSolid_of_isNameLetter (e.isNameLetter_of_mem c hc))
  have hdescriptor : ∀ c ∈ e.descriptor, c ≠ '\n' :=
    fun c hc => ne_newline_of_isSolid (LogEntry.isSolid_of_isDescriptorChar (e.isDescriptorChar_of_mem c hc))
  have hline : ∀ c ∈ e.statusLine, c ≠ '\n' := by
    refine List.forall_mem_cons.mpr ⟨e.mark_ne_newline, List.forall_mem_cons.mpr ⟨by decide, ?_⟩⟩
    refine List.forall_mem_append.mpr ⟨forall_of_all (by decide), ?_⟩
    refine List.forall_mem_append.mpr ⟨hdescriptor, List.forall_mem_append.mpr ⟨forall_of_all (by decide), ?_⟩⟩
    exact List.forall_mem_append.mpr ⟨hname, List.forall_mem_cons.mpr ⟨by decide, hending⟩⟩
  exact fun hmem => hline _ hmem rfl

/-- It has no blanks at its ends. -/
theorem trim_statusLine (e : LogEntry) : trim e.statusLine = e.statusLine := by
  refine trim_eq_self_iff.mpr ⟨fun c hc => ?_, fun c hc => ?_⟩
  · cases hc
    exact e.mark_of_outcome.2.2.1
  · have hlast : e.statusLine.getLast? = some ')' := by
      simp [LogEntry.statusLine, LogEntry.naming, LogEntry.ending, List.getLast?_append, List.getLast?_cons]
    rw [hlast] at hc
    cases hc
    decide

/-- **The lines of the text are those of the log.** -/
theorem lines_text (log : PrintedLog) : Text.lines log.text = log.lines := by
  have hline : ∀ line ∈ log.lines, '\n' ∉ line ∧ trim line = line := by
    intro line hline
    rcases List.mem_append.mp hline with hline | hline
    · obtain ⟨e, -, rfl⟩ := List.mem_map.mp hline
      exact ⟨newline_not_mem_statusLine e, trim_statusLine e⟩
    · rcases List.mem_cons.mp hline with rfl | hline
      · exact ⟨by decide, by decide⟩
      · rcases List.mem_cons.mp hline with rfl | hline
        · exact ⟨newline_not_mem_tableRow isCell_headings _, trim_tableRow _ _⟩
        · obtain ⟨row, -, rfl⟩ := List.mem_map.mp hline
          exact ⟨newline_not_mem_tableRow row.1.isCell_cells _, trim_tableRow _ _⟩
  rw [text, lines_flatMap fun line hline' => (hline line hline').1]
  have hreturn : ∀ line ∈ log.lines, dropReturn line = line := fun line hline' => dropReturn_eq_self (hline line hline').2
  rw [List.map_congr_left hreturn, List.map_id']

/-- **A printed log is read back**: its text gives each linter with all that is said about it, in the order of the status
lines, and no warning. So does any other output with these lines. -/
theorem read_text (log : PrintedLog) :
    OutputReading.read log.text = ⟨log.entries.map LogEntry.result, []⟩ ∧
      ∀ output, Text.lines output = log.lines → OutputReading.read output = OutputReading.read log.text := by
  have htext := read_of_lines log.lines_text
  exact ⟨htext, fun output h => (read_of_lines h).trans htext.symm⟩

/-- One linter that failed. -/
def eslint : LogEntry where
  name := "eslint".toList
  descriptor := "TYPESCRIPT".toList
  outcome := .failed
  files := 12
  fixed := 1
  errors := 2
  warnings := 0
  hundredths := 351
  name_ne_nil := by decide
  isNameLetter_of_mem := forall_of_all (by decide)
  descriptor_ne_nil := by decide
  isDescriptorChar_of_mem := forall_of_all (by decide)
  files_le := by decide
  fixed_le := by decide
  errors_le := by decide
  warnings_le := by decide
  hundredths_lt := by decide

/-- One linter that did not. -/
def prettier : LogEntry :=
  { eslint with
    name := "prettier".toList
    outcome := .success
    fixed := 0
    errors := 0
    hundredths := 84
    name_ne_nil := by decide
    isNameLetter_of_mem := forall_of_all (by decide)
    fixed_le := by decide
    errors_le := by decide
    hundredths_lt := by decide }

/-- A log about both, with columns as wide as their widest cells, and the rows the other way round. -/
def typescriptLog : PrintedLog where
  entries := [eslint, prettier]
  heading := fun i => [(1, 3), (1, 3), (1, 2)].getD i (1, 1)
  rows :=
    [(prettier, fun i => [(1, 1), (1, 1), (1, 2), (4, 1), (5, 1), (6, 1), (8, 1), (8, 1)].getD i (1, 1)),
      (eslint, fun i => [(1, 1), (1, 3), (1, 2), (4, 1), (5, 1), (6, 1), (8, 1), (8, 1)].getD i (1, 1))]
  entries_ne_nil := by decide
  names_nodup := by decide
  rows_perm := List.Perm.swap ..

theorem read_text_typescriptLog :
    typescriptLog.lines.map String.ofList =
      ["❌ Linted [TYPESCRIPT] files with [eslint]: Found 2 error(s) - (3.51s)",
        "✅ Linted [TYPESCRIPT] files with [prettier] successfully - (0.84s)",
        "+----SUMMARY----+",
        "| Descriptor   | Linter   | Mode  | Files | Fixed | Errors | Warnings | Elapsed time |",
        "| ✅ TYPESCRIPT | prettier | list  |    12 |     0 |      0 |        0 |        0.84s |",
        "| ❌ TYPESCRIPT | eslint   | list  |    12 |     1 |      2 |        0 |        3.51s |"] ∧
      OutputReading.read typescriptLog.text =
        ⟨[⟨"eslint", .failed, 12, 2, 0, 1, some 3510, []⟩, ⟨"prettier", .success, 12, 0, 0, 0, some 840, []⟩], []⟩ := by
  have htext := typescriptLog.read_text.1
  have hresults : typescriptLog.entries.map LogEntry.result =
      [⟨"eslint", .failed, 12, 2, 0, 1, some 3510, []⟩, ⟨"prettier", .success, 12, 0, 0, 0, some 840, []⟩] := by
    decide
  exact ⟨by decide +kernel, hresults ▸ htext⟩

end PrintedLog

end LintPlan
