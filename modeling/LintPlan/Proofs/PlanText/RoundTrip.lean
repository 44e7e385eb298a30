import LintPlan.Proofs.Planning.Names
import LintPlan.Proofs.Text.ReadingBack
import LintPlan.PlanText

/-!
# Written plans read back

Writing joins names with commas, puts a value behind its key and an equals sign, and ends every line with a line feed;
reading cuts all of it apart again and trims the pieces. Reading undoes writing as long as no name and no value could
be taken for something else:

* **`Writable`** — what is asked of a configuration: names that may stand in a list, values that may stand on a line,
  numbers that fit their words.
* **`readLines_settings`** — each line of a written plan reads as the setting that it was written from.
* **`read_render`** — the written plan reads as what the configuration says.
* **`writable_plan`** — planning from accepted preferences comes to a writable configuration.
-/

namespace LintPlan

namespace PlanText

/-! ## §1 — what may be written

The format has no escapes. A text can be written as a value, or as an item of a list, if it has none of the characters that end
one and no blanks at its ends. -/

/-- A name that may stand in a list on a line. -/
structure IsListItem (name : String) : Prop where
  ne_empty : name ≠ ""
  trimmed : Text.trimmed name = name
  no_comma : ',' ∉ name.toList
  no_newline : '\n' ∉ name.toList

/-- A value that may stand on a line. -/
structure IsLineValue (value : String) : Prop where
  trimmed : Text.trimmed value = value
  no_newline : '\n' ∉ value.toList

/-- A configuration that can be written and read back. The words of its numbers have 64 or 32 bits. -/
structure Writable (c : Configuration) : Prop where
  names : ∀ n ∈ c.linters.names, IsListItem n
  maxMemory : IsLineValue c.performance.limits.maxMemory
  outputDir : IsLineValue c.reporting.outputDir
  maxExecutionTime_le : c.performance.maxExecutionTime ≤ Text.maxWord64
  parallelism_le : c.performance.parallelism ≤ Text.maxWord32
  maxCpus_le : c.performance.limits.maxCpus ≤ Text.maxWord32

/-- What the plan of a configuration says. -/
def written (c : Configuration) : WrittenPlan where
  enabled := c.linters.enabledNames
  disabled := c.linters.disabled
  performance := c.performance
  reportFormats := c.reporting.formats
  outputDir := c.reporting.outputDir
  securityScan := c.security.enabled
  securitySeverity := c.security.severityThreshold

/-- A key of a setting: it could not be taken for a comment, nor for a key with a value. -/
structure IsKey (key : String) : Prop where
  ne_empty : key ≠ ""
  trimmed : Text.trimmed key = key
  no_comment : key.toList.head? ≠ some '#'
  no_equals : '=' ∉ key.toList
  no_newline : '\n' ∉ key.toList

theorem isKey_iff {key : String} :
    IsKey key ↔ key ≠ "" ∧ Text.trimmed key = key ∧ key.toList.head? ≠ some '#' ∧ '=' ∉ key.toList ∧
      '\n' ∉ key.toList :=
  ⟨fun h => ⟨h.ne_empty, h.trimmed, h.no_comment, h.no_equals, h.no_newline⟩,
    fun ⟨h1, h2, h3, h4, h5⟩ => ⟨h1, h2, h3, h4, h5⟩⟩

theorem isListItem_iff {name : String} :
    IsListItem name ↔ name ≠ "" ∧ Text.trimmed name = name ∧ ',' ∉ name.toList ∧ '\n' ∉ name.toList :=
  ⟨fun h => ⟨h.ne_empty, h.trimmed, h.no_comma, h.no_newline⟩, fun ⟨h1, h2, h3, h4⟩ => ⟨h1, h2, h3, h4⟩⟩

theorem isLineValue_iff {value : String} :
    IsLineValue value ↔ Text.trimmed value = value ∧ '\n' ∉ value.toList :=
  ⟨fun h => ⟨h.trimmed, h.no_newline⟩, fun ⟨h1, h2⟩ => ⟨h1, h2⟩⟩

instance (key : String) : Decidable (IsKey key) := decidable_of_iff' _ isKey_iff

instance (name : String) : Decidable (IsListItem name) := decidable_of_iff' _ isListItem_iff

instance (value : String) : Decidable (IsLineValue value) := decidable_of_iff' _ isLineValue_iff

theorem toList_ne_nil {s : String} (h : s ≠ "") : s.toList ≠ [] := by
  intro hnil
  exact h (String.toList_inj.1 hnil)

/-! ## §2 — lists

Items are joined by commas and cut again. -/

section
variable {names : List String}

theorem trim_pieces (h : ∀ n ∈ names, IsListItem n) : ∀ p ∈ names.map String.toList,
    p ≠ [] ∧ Text.trim p = p ∧ ',' ∉ p ∧ '\n' ∉ p := by
  intro p hp
  obtain ⟨n, hn, rfl⟩ := List.mem_map.1 hp
  obtain ⟨h1, h2, h3, h4⟩ := h n hn
  exact ⟨toList_ne_nil h1, Text.trimmed_eq_self_iff.1 h2, h3, h4⟩

/-- **A list reads as the names that it was written from.** No name at all is written as an empty value, which reads as
no name. -/
theorem readList_listText (h : ∀ n ∈ names, IsListItem n) : readList (listText names) = names := by
  have hpieces := trim_pieces h
  unfold readList listText Text.joined
  rw [String.toList_ofList]
  by_cases hnil : names = []
  · subst hnil
    decide
  · have hne : names.map String.toList ≠ [] := mt List.map_eq_nil_iff.1 hnil
    -- an empty list is written as an empty text, which is cut to one empty piece; hence the two cases
    rw [show ",".toList = [','] from rfl, Text.splitOn_join hne fun p hp => (hpieces p hp).2.2.1, List.map_map]
    have hmap : names.map ((fun item => String.ofList (Text.trim item)) ∘ String.toList) = names := by
      conv_rhs => rw [← List.map_id names]
      apply List.map_congr_left
      intro n hn
      exact (h n hn).trimmed
    rw [hmap]
    exact List.filter_eq_self.2 fun n hn => bne_iff_ne.2 (h n hn).ne_empty

theorem head?_join {sep p : List Char} {ps : List (List Char)} (hp : p ≠ []) :
    (Text.join sep (p :: ps)).head? = p.head? := by
  cases ps with
  | nil => rfl
  | cons q qs =>
    show (p ++ sep ++ Text.join sep (q :: qs)).head? = _
    rw [List.append_assoc, List.head?_append_of_ne_nil _ hp]

/-- A joined text ends with the end of its last piece. -/
theorem not_isBlank_of_getLast?_join {sep : List Char} {pieces : List (List Char)}
    (h : ∀ p ∈ pieces, p ≠ [] ∧ Text.trim p = p) {c : Char} (hc : (Text.join sep pieces).getLast? = some c) :
    Text.isBlank c = false := by
  induction pieces with
  | nil => exact absurd hc (by simp [Text.join])
  | cons p ps ih =>
    obtain ⟨hp, htrim⟩ := h p List.mem_cons_self
    cases ps with
    | nil => exact (Text.trim_eq_self_iff.1 htrim).2 c hc
    | cons q qs =>
      have hq := (h q (List.mem_cons_of_mem _ List.mem_cons_self)).1
      -- the last character is one of the last piece, as long as something is joined behind
      have hne : Text.join sep (q :: qs) ≠ [] := by
        intro hnil
        have hhead : (Text.join sep (q :: qs)).head? = q.head? := head?_join hq
        rw [hnil, List.head?_nil] at hhead
        exact hq (List.head?_eq_none_iff.1 hhead.symm)
      refine ih (fun x hx => h x (List.mem_cons_of_mem _ hx)) ?_
      rw [← hc]
      show _ = (p ++ sep ++ Text.join sep (q :: qs)).getLast?
      rw [List.getLast?_append_of_ne_nil _ hne]

/-- A list of items may stand as a value: it starts with its first item and ends with its last one, and has no line break. -/
theorem isLineValue_listText (h : ∀ n ∈ names, IsListItem n) : IsLineValue (listText names) := by
  have hpieces := trim_pieces h
  rw [isLineValue_iff, Text.trimmed_eq_self_iff, listText, Text.joined, String.toList_ofList,
    show ",".toList = [','] from rfl]
  refine ⟨Text.trim_eq_self_iff.2 ⟨?_, ?_⟩, ?_⟩
  · intro c hc
    cases names with
    | nil => exact absurd hc (by simp [Text.join])
    | cons n ns =>
      obtain ⟨hne, htrim, -⟩ := hpieces n.toList List.mem_cons_self
      rw [List.map_cons, head?_join hne] at hc
      exact (Text.trim_eq_self_iff.1 htrim).1 c hc
  · intro c hc
    exact not_isBlank_of_getLast?_join (fun p hp => ⟨(hpieces p hp).1, (hpieces p hp).2.1⟩) hc
  · intro hmem
    rcases Text.mem_join hmem with hsep | ⟨p, hp, hc⟩
    · exact absurd hsep (by decide)
    · exact (hpieces p hp).2.2.2 hc

end

/-! ## §3 — numbers, truth values and choices

Each kind of value is read back from its text, and its text may stand on a line. -/

theorem isLineValue_numberText (n : Nat) : IsLineValue (numberText n) := by
  rw [isLineValue_iff, Text.trimmed_eq_self_iff, numberText, String.toList_ofList]
  refine ⟨Text.trim_eq_self_of_forall fun c hc => Text.not_isBlank_of_isDigit (Text.isDigit_of_mem_numeral hc), ?_⟩
  intro hc
  exact absurd (Text.isDigit_of_mem_numeral hc) (by decide)

theorem readWord64_numberText {n : Nat} (h : n ≤ Text.maxWord64) : readWord64 (numberText n) = some n := by
  rw [readWord64, numberText, String.toList_ofList, Text.readNumeral_numeral h]

theorem readWord32_numberText {n : Nat} (h : n ≤ Text.maxWord32) : readWord32 (numberText n) = some n := by
  rw [readWord32, numberText, String.toList_ofList, Text.readNumeral_numeral h]

theorem readBool_boolText (b : Bool) : readBool (boolText b) = some b := by cases b <;> decide

theorem isLineValue_boolText (b : Bool) : IsLineValue (boolText b) := by cases b <;> decide

theorem isLineValue_cacheName (x : CacheStrategy) : IsLineValue x.name := by cases x <;> decide

theorem isLineValue_severityName (x : Severity) : IsLineValue x.name := by cases x <;> decide

theorem isListItem_formatName (f : ReportFormat) : IsListItem f.name := by cases f <;> decide

theorem parse?_cacheName (x : CacheStrategy) : CacheStrategy.parse? x.name = some x := by cases x <;> decide

theorem parse?_severityName (x : Severity) : Severity.parse? x.name = some x := by cases x <;> decide

theorem parse?_formatName (f : ReportFormat) : ReportFormat.parse? f.name = some f := by cases f <;> decide

theorem readFormats_names (fs : List ReportFormat) : readFormats (fs.map ReportFormat.name) = .ok fs := by
  induction fs with
  | nil => rfl
  | cons f fs ih => rw [List.map_cons, readFormats, parse?_formatName, ih]

/-! ## §4 — lines

A line is cut at its first equals sign, which a key has none of. -/

/-- A setting as a line without its end. -/
def lineOf (setting : String × String) : List Char := setting.1.toList ++ '=' :: setting.2.toList

/-- The line of a setting has no blanks at its ends: it starts as its key does, and ends as its value does, or with the
equals sign. -/
theorem trim_lineOf {setting : String × String} (hkey : IsKey setting.1) (hvalue : IsLineValue setting.2) :
    Text.trim (lineOf setting) = lineOf setting := by
  have hk := (Text.trim_eq_self_iff.1 (Text.trimmed_eq_self_iff.1 hkey.trimmed)).1
  have hv := (Text.trim_eq_self_iff.1 (Text.trimmed_eq_self_iff.1 hvalue.trimmed)).2
  refine Text.trim_eq_self_iff.2 ⟨?_, ?_⟩
  · intro c hc
    rw [lineOf, List.head?_append_of_ne_nil _ (toList_ne_nil hkey.ne_empty)] at hc
    exact hk c hc
  · intro c hc
    rw [lineOf, List.getLast?_append_of_ne_nil _ (List.cons_ne_nil _ _), List.getLast?_cons] at hc
    cases hlast : setting.2.toList.getLast? with
    | none =>
      rw [hlast, Option.getD_none, Option.some.injEq] at hc
      rw [← hc]
      decide
    | some d =>
      rw [hlast, Option.getD_some, Option.some.injEq] at hc
      exact hv c (hc ▸ hlast)

theorem newline_not_mem_lineOf {setting : String × String} (hkey : IsKey setting.1) (hvalue : IsLineValue setting.2) :
    '\n' ∉ lineOf setting := by
  rw [lineOf, List.mem_append, List.mem_cons, not_or, not_or]
  exact ⟨hkey.no_newline, by decide, hvalue.no_newline⟩

/-- **The line of a setting reads as the setting.** Only the first equals sign counts, so the value may contain more. -/
theorem readLine_lineOf {setting : String × String} (hkey : IsKey setting.1) (hvalue : IsLineValue setting.2) :
    readLine (lineOf setting) = .setting setting.1 setting.2 := by
  have hne : setting.1.toList ≠ [] := toList_ne_nil hkey.ne_empty
  have hempty : (lineOf setting).isEmpty = false := by
    rw [List.isEmpty_eq_false_iff, lineOf]
    exact List.append_ne_nil_of_left_ne_nil hne _
  have hhash : ((lineOf setting).head? == some '#') = false := by
    rw [beq_eq_false_iff_ne, lineOf, List.head?_append_of_ne_nil _ hne]
    exact hkey.no_comment
  have hcut : Text.cut '=' (lineOf setting) = some (setting.1.toList, setting.2.toList) :=
    Text.cut_append_cons hkey.no_equals _
  simp only [readLine, trim_lineOf hkey hvalue, hempty, hhash, Bool.or_self, Bool.false_eq_true, if_false, hcut,
    Text.trimmed_eq_self_iff.1 hkey.trimmed, Text.trimmed_eq_self_iff.1 hvalue.trimmed, String.ofList_toList]

/-- **The lines of settings read as the settings**, the last one first. -/
theorem readLines_settings (number : Nat) (done entries : List (String × String))
    (h : ∀ s ∈ entries, IsKey s.1 ∧ IsLineValue s.2) :
    readLines number done (entries.map lineOf) = .ok (entries.reverse ++ done) := by
  induction entries generalizing number done with
  | nil => rfl
  | cons s entries ih =>
    obtain ⟨hkey, hvalue⟩ := h s List.mem_cons_self
    rw [List.map_cons, readLines, readLine_lineOf hkey hvalue]
    show readLines (number + 1) (s :: done) (entries.map lineOf) = _
    rw [ih _ _ fun x hx => h x (List.mem_cons_of_mem _ hx), List.reverse_cons, List.append_assoc]
    rfl

/-! ## §5 — the settings of a configuration

The sheet of all settings is read back line by line, and each field is then fetched from it by its key. -/

/-- The keys of a written plan. -/
def keys : List String :=
  ["CACHE_STRATEGY", "DISABLE_LINTERS", "ENABLE_LINTERS", "INCREMENTAL_SCAN", "LOG_LEVEL", "MAX_CPUS",
   "MAX_EXECUTION_TIME", "MAX_MEMORY", "PARALLEL", "PARALLEL_PROCESS_NUMBER", "REPORT_FORMATS",
   "REPORT_OUTPUT_FOLDER", "SECURITY_SCAN", "SECURITY_SEVERITY"]

theorem settings_keys (c : Configuration) : (settings c).map Prod.fst = keys := rfl

theorem isKey_keys : ∀ key ∈ keys, IsKey key := by decide

theorem keys_nodup : keys.Nodup := by decide

theorem isKey_settings {c : Configuration} {s : String × String} (h : s ∈ settings c) : IsKey s.1 :=
  isKey_keys s.1 (settings_keys c ▸ List.mem_map_of_mem h)

variable {c : Configuration}

/-- All values may be written, by the kind of each. -/
theorem isLineValue_settings (h : Writable c) {s : String × String} (hs : s ∈ settings c) : IsLineValue s.2 := by
  have hon : IsLineValue (listText c.linters.enabledNames) :=
    isLineValue_listText fun n hn => h.names n (List.mem_append_left _ hn)
  have hoff : IsLineValue (listText c.linters.disabled) :=
    isLineValue_listText fun n hn => h.names n (List.mem_append_right _ hn)
  have hformats : IsLineValue (listText (c.reporting.formats.map ReportFormat.name)) := by
    apply isLineValue_listText
    intro n hn
    obtain ⟨f, -, rfl⟩ := List.mem_map.1 hn
    exact isListItem_formatName f
  -- in the order of `settings`, the three lists above among them
  have hall : ∀ s ∈ settings c, IsLineValue s.2 := by
    simp only [settings, List.forall_mem_cons, List.not_mem_nil, false_imp_iff, implies_true, and_true]
    exact ⟨isLineValue_cacheName _, hoff, hon, isLineValue_boolText _, by decide, isLineValue_numberText _,
      isLineValue_numberText _, h.maxMemory, isLineValue_boolText _, isLineValue_numberText _, hformats, h.outputDir,
      isLineValue_boolText _, isLineValue_severityName _⟩
  exact hall s hs

/-- With distinct keys, every entry of a list is found under its key. -/
theorem lookup_of_mem {entries : List (String × String)} (hkeys : (entries.map Prod.fst).Nodup) {key value : String}
    (h : (key, value) ∈ entries) : entries.lookup key = some value := by
  induction entries with
  | nil => exact absurd h (List.not_mem_nil)
  | cons e entries ih =>
    obtain ⟨hfresh, hrest⟩ := List.nodup_cons.1 hkeys
    rcases List.mem_cons.1 h with rfl | h
    · exact List.lookup_cons_self
    · have hne : (key == e.1) = false := by
        rw [beq_eq_false_iff_ne]
        rintro rfl
        exact hfresh (List.mem_map.2 ⟨_, h, rfl⟩)
      rw [List.lookup_cons, hne]
      exact ih hrest h

/-- A setting is looked up in the order the lines were read, the last one first. Its place in the plan says which it is. -/
theorem rawSetting_settings {key value : String} (i : Nat) (h : (settings c)[i]? = some (key, value)) :
    rawSetting (settings c).reverse key = .ok value := by
  have hnodup : ((settings c).reverse.map Prod.fst).Nodup := by
    rw [List.map_reverse, settings_keys, List.nodup_reverse]
    exact keys_nodup
  rw [rawSetting, lookup_of_mem hnodup (List.mem_reverse.2 (List.mem_of_getElem? h))]

theorem readSetting_settings {α : Type} {key value : String} {f : String → Option α} {a : α} (i : Nat)
    (h : (settings c)[i]? = some (key, value)) (hread : f value = some a) :
    readSetting (settings c).reverse key f = .ok a := by
  rw [readSetting, rawSetting_settings i h]
  dsimp only
  rw [hread]

theorem ok_bind {α β : Type} (a : α) (f : α → Except Fault β) : (Except.ok a >>= f) = f a := rfl

/-- **The settings of a configuration describe what its plan says.** -/
theorem ofSettings_settings (h : Writable c) : ofSettings (settings c).reverse = .ok (written c) := by
  have hon : readList (listText c.linters.enabledNames) = c.linters.enabledNames :=
    readList_listText fun n hn => h.names n (List.mem_append_left _ hn)
  have hoff : readList (listText c.linters.disabled) = c.linters.disabled :=
    readList_listText fun n hn => h.names n (List.mem_append_right _ hn)
  have hformats : readFormats (readList (listText (c.reporting.formats.map ReportFormat.name))) =
      .ok c.reporting.formats := by
    rw [readList_listText, readFormats_names]
    intro n hn
    obtain ⟨f, -, rfl⟩ := List.mem_map.1 hn
    exact isListItem_formatName f
  unfold ofSettings
  -- the fields are fetched in the order of the reader, at the places the writer put them
  rw [rawSetting_settings 10 rfl, rawSetting_settings 2 rfl, rawSetting_settings 1 rfl,
    readSetting_settings 6 rfl (readWord64_numberText h.maxExecutionTime_le),
    readSetting_settings 9 rfl (readWord32_numberText h.parallelism_le), rawSetting_settings 7 rfl,
    readSetting_settings 5 rfl (readWord32_numberText h.maxCpus_le),
    readSetting_settings 0 rfl (parse?_cacheName c.performance.cache),
    readSetting_settings 3 rfl (readBool_boolText c.performance.incremental), rawSetting_settings 11 rfl,
    readSetting_settings 12 rfl (readBool_boolText c.security.enabled),
    readSetting_settings 13 rfl (parse?_severityName c.security.severityThreshold)]
  simp only [ok_bind, hformats, hon, hoff]
  rfl

/-- The text of a plan is its lines, each ended by a line feed. -/
theorem toList_render (c : Configuration) :
    (render c).toList = (heading.toList :: (settings c).map lineOf).flatMap (· ++ ['\n']) := by
  have hline : ∀ s : String × String, (settingLine s).toList = lineOf s ++ ['\n'] := by
    intro s
    simp [settingLine, lineOf]
  rw [render, String.toList_join, List.flatMap_cons, List.flatMap_cons, List.flatMap_map, List.flatMap_map]
  simp only [hline, String.toList_append]
  rfl

/-- **A written plan reads as what the configuration says.** -/
theorem read_render_of_writable (h : Writable c) : read (render c) = .ok (written c) := by
  have hsettings : ∀ s ∈ settings c, IsKey s.1 ∧ IsLineValue s.2 :=
    fun s hs => ⟨isKey_settings hs, isLineValue_settings h hs⟩
  have hlines : Text.lines (render c).toList = heading.toList :: (settings c).map lineOf := by
    have hfeed : ∀ l ∈ heading.toList :: (settings c).map lineOf, '\n' ∉ l := by
      intro l hl
      rcases List.mem_cons.1 hl with rfl | hl
      · decide
      · obtain ⟨s, hs, rfl⟩ := List.mem_map.1 hl
        exact newline_not_mem_lineOf (hsettings s hs).1 (hsettings s hs).2
    have hreturn : ∀ l ∈ heading.toList :: (settings c).map lineOf, Text.dropReturn l = l := by
      intro l hl
      rcases List.mem_cons.1 hl with rfl | hl
      · decide
      · obtain ⟨s, hs, rfl⟩ := List.mem_map.1 hl
        exact Text.dropReturn_eq_self (trim_lineOf (hsettings s hs).1 (hsettings s hs).2)
    rw [toList_render, Text.lines_flatMap hfeed, List.map_congr_left hreturn, List.map_id']
  have hheading : readLine heading.toList = .skipped := by decide
  rw [read, hlines, readLines, hheading]
  dsimp only
  rw [readLines_settings _ _ _ hsettings, List.append_nil]
  exact ofSettings_settings h

/-! ## §6 — plans from accepted preferences

Names come from the catalog or from preferences that were checked, and all numbers of a plan are bounded. So a plan can always
be written. -/

/-- A name that preferences may mention may stand in a list: none of its characters is a blank. -/
theorem isListItem_of_isPlainName {name : String} (h : Preferences.isPlainName name = true) : IsListItem name := by
  rw [Preferences.isPlainName, Bool.and_eq_true, bne_iff_ne, Bool.not_eq_true', List.any_eq_false] at h
  obtain ⟨hne, hchars⟩ := h
  have hchar : ∀ ch ∈ name.toList, Text.isBlank ch = false ∧ ch ≠ ',' := by
    intro ch hch
    have := hchars ch hch
    simp only [Bool.or_eq_true, not_or, Bool.not_eq_true, beq_eq_false_iff_ne] at this
    exact ⟨this.1.1.1, this.1.2⟩
  refine ⟨hne, Text.trimmed_eq_self_iff.2 (Text.trim_eq_self_of_forall fun ch hch => (hchar ch hch).1), ?_, ?_⟩
  · intro hc
    exact (hchar _ hc).2 rfl
  · intro hc
    exact absurd (hchar _ hc).1 (by decide)

theorem isLineValue_of_isPlainDir {dir : String} (h : Preferences.isPlainDir dir = true) : IsLineValue dir := by
  rw [Preferences.isPlainDir, Bool.and_eq_true, Bool.and_eq_true, beq_iff_eq, Bool.not_eq_true', List.any_eq_false] at h
  refine ⟨h.1.2, ?_⟩
  intro hc
  exact h.2 _ hc (by decide)

theorem orElse_eq_none_iff {α : Type} {o : Option α} {f : Unit → Option α} :
    o.orElse f = none ↔ o = none ∧ f () = none := by
  cases o <;> simp

/-- What preferences that are accepted promise about names and about the directory. -/
theorem plain_of_fault?_eq_none {prefs : Preferences} (h : prefs.fault? = none) :
    (∀ n ∈ prefs.mentionedNames, Preferences.isPlainName n = true) ∧
      ∀ dir, prefs.reporting.outputDir = some dir → Preferences.isPlainDir dir = true := by
  rw [Preferences.fault?] at h
  simp only [orElse_eq_none_iff, Option.map_eq_none_iff, List.find?_eq_none] at h
  obtain ⟨⟨-, hnames⟩, hdir⟩ := h
  constructor
  · intro n hn
    simpa using hnames n hn
  · intro dir hsome
    rw [hsome] at hdir
    simpa using hdir

theorem isPlainName_templates : ∀ t ∈ Catalog.templates, Preferences.isPlainName t.name = true := by decide

theorem isLineValue_tunedSizes : ∀ n ∈ Planning.tunedSizes, IsLineValue (MemorySize.render n) := by decide

/-- **Planning from accepted preferences comes to a configuration that can be written and read back.** Its names are
names of the catalog or names that the preferences mention. -/
theorem writable_plan (p : Profile) {prefs : Preferences} (h : prefs.fault? = none) :
    Writable (Planning.optimized (Planning.separatedDraft p prefs)) := by
  obtain ⟨hplain, hdir⟩ := plain_of_fault?_eq_none h
  have hpar : (Planning.optimized (Planning.separatedDraft p prefs)).performance.parallelism ≤ 6 :=
    Nat.le_trans (Nat.min_le_left _ _) (Planning.parallelism_tunedPerformance_bounds p prefs).2
  have htime : (Planning.optimized (Planning.separatedDraft p prefs)).performance.maxExecutionTime ≤ 1620 :=
    (Planning.maxExecutionTime_tunedPerformance_bounds p prefs).2
  have hcpus : (Planning.optimized (Planning.separatedDraft p prefs)).performance.limits.maxCpus ≤ 6 :=
    Planning.maxCpus_tunedPerformance_le p prefs
  refine ⟨?_, ?_, ?_, Nat.le_trans htime (by decide), Nat.le_trans hpar (by decide), Nat.le_trans hcpus (by decide)⟩
  · intro n hn
    rcases Planning.mem_names_plan.1 hn with hcand | hreq
    · obtain ⟨t, ht, rfl⟩ := Planning.mem_names_candidates hcand
      exact isListItem_of_isPlainName (isPlainName_templates t ht)
    · exact isListItem_of_isPlainName (hplain n (List.mem_append_right _ hreq))
  · obtain ⟨n, hn, hmem⟩ := Planning.maxMemory_tunedPerformance p prefs
    show IsLineValue (Planning.tunedPerformance p prefs).limits.maxMemory
    rw [hmem]
    exact isLineValue_tunedSizes n hn
  · show IsLineValue (prefs.reporting.outputDir.getD Reporting.standard.outputDir)
    cases hd : prefs.reporting.outputDir with
    | none => decide
    | some dir => exact isLineValue_of_isPlainDir (hdir dir hd)

/-! ## §7 — the round trip

Both parts together: what can be written is read back, and plans can be written. -/

/-- **Written plans read back.** Whatever can be written reads as what it says; and for preferences that are accepted
there is a plan, it can be written, and so it reads back. -/
theorem read_render :
    (∀ c, Writable c → read (render c) = .ok (written c)) ∧
      ∀ (p : Profile) (prefs : Preferences), prefs.fault? = none →
        ∃ c, Planning.plan p prefs = .ok c ∧ Writable c ∧ read (render c) = .ok (written c) := by
  refine ⟨fun c h => read_render_of_writable h, ?_⟩
  intro p prefs h
  have hw := writable_plan p h
  exact ⟨_, Planning.plan_eq_ok p prefs, hw, read_render_of_writable hw⟩

/-- A configuration with a blank and an equals sign in the name of a linter and a blank in the directory for reports. -/
def unusualConfiguration : Configuration where
  linters := ⟨[Planning.unknownLinter "my tool=2"], ["standard"], []⟩
  performance := .standard
  reporting := ⟨[.sarif, .markdown], "lint reports", true⟩
  security := .standard

/-- A simple repository in Python. -/
def simpleProfile : Profile := ⟨[.python], [.shell], [], [], [], [], .simple, .zero false, ⟨0, 0, 0, 0⟩, []⟩

/-- Preferences that require a linter that the catalog does not know. -/
def houseStyle : Preferences :=
  { Preferences.standard with
    reporting := ⟨.sarif, some "reports/lint", false⟩
    standards := some ⟨["house-style", "flake8"], []⟩ }

/-- The round trip of an unusual configuration, and of the plan for a house style. -/
theorem read_render_unusual :
    (Writable unusualConfiguration ∧ read (render unusualConfiguration) = .ok (written unusualConfiguration)) ∧
      houseStyle.fault? = none ∧ ∃ c, Planning.plan simpleProfile houseStyle = .ok c ∧ Writable c ∧
        read (render c) = .ok (written c) := by
  have hc : Writable unusualConfiguration := ⟨by decide, by decide, by decide, by decide, by decide, by decide⟩
  have hprefs : houseStyle.fault? = none := by decide
  exact ⟨⟨hc, read_render.1 _ hc⟩, hprefs, read_render.2 simpleProfile houseStyle hprefs⟩

end PlanText

end LintPlan
