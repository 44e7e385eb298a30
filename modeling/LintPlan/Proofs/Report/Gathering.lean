import LintPlan.Proofs.Report.Counters
import Mathlib.Data.List.Induction
import Mathlib.Data.List.Nodup

/-!
# What a log says about each linter

A log is read line by line, and the same linter can turn up again and again: in status lines, in rows of tables, and as the
one whose issues follow. What is gathered in the end depends on the lines alone.

* **`owner?`**, **`issuesOf`** — which linter a text belongs to, and the issues of a linter.
* **`LinterResult.Gathers`** — a result is what the records and the issues of its linter come to.
* **`LogState.Gathers.step`**, **`LogState.gathers_foldl`** — one more line, and all lines.
* **`readLog_gathers`** — so a log is read as one result for each linter, in the order in which they first occur.
-/

namespace LintPlan

namespace LogLine

/-! ## §1 — what the lines say

The log without a state: which records and which issues of a linter its lines have. Lemmas say what one more line at the end
adds. -/

/-- The record on a line: that of a status line, or that in a row of the table. -/
def record? : LogLine → Option LinterResult
  | .status r => some r
  | .row r => some r
  | .border => none
  | .text _ => none

/-- The records on some lines, in their order. -/
def records (kinds : List LogLine) : List LinterResult := kinds.filterMap record?

/-- The records of a linter. -/
def recordsOf (name : String) (kinds : List LogLine) : List LinterResult :=
  (records kinds).filter fun r => r.name = name

/-- Is it a line of its own, neither a record nor a border? -/
def isText : LogLine → Bool
  | .text _ => true
  | _ => false

/-- The linter that a text behind some lines belongs to: that of the nearest record or border, if it is a status line. -/
def owner? (earlier : List LogLine) : Option String :=
  match earlier.reverse.find? fun kind => !kind.isText with
  | some (.status r) => some r.name
  | _ => none

/-- The issue of a linter on a line behind some other lines. -/
def issueFor? (name : String) (earlier : List LogLine) : LogLine → Option Issue
  | .text line => if owner? earlier = some name then issue? line else none
  | _ => none

/-- The issues of a linter. -/
def issuesOf (name : String) (kinds : List LogLine) : List Issue :=
  (List.range kinds.length).filterMap fun place => kinds[place]?.bind (issueFor? name (kinds.take place))

/-- The greatest of some numbers, or zero. -/
def greatest (ns : List Nat) : Nat := ns.foldl max 0

variable {kinds : List LogLine} {kind : LogLine} {name : String} {r : LinterResult}

theorem records_concat (kinds : List LogLine) (kind : LogLine) :
    records (kinds ++ [kind]) = records kinds ++ kind.record?.toList := by
  rw [records, List.filterMap_append]
  cases h : kind.record? <;> simp [h, records]

theorem recordsOf_concat_of_eq (h : kind.record? = some r) (hname : r.name = name) :
    recordsOf name (kinds ++ [kind]) = recordsOf name kinds ++ [r] := by
  rw [recordsOf, records_concat, h, List.filter_append]
  simp [recordsOf, hname]

theorem recordsOf_concat_of_ne (h : ∀ r, kind.record? = some r → r.name ≠ name) :
    recordsOf name (kinds ++ [kind]) = recordsOf name kinds := by
  rw [recordsOf, records_concat, List.filter_append]
  cases hr : kind.record? with
  | none => simp [recordsOf]
  | some r => simp [recordsOf, h r hr]

theorem recordsOf_eq_nil (h : name ∉ (records kinds).map (·.name)) : recordsOf name kinds = [] := by
  rw [recordsOf, List.filter_eq_nil_iff]
  intro r hr hname
  exact h (List.mem_map.mpr ⟨r, hr, of_decide_eq_true hname⟩)

/-- Whether a line is an issue of a linter depends on the lines before it only, so one more line brings at most one more issue.
-/
theorem issuesOf_concat (name : String) (kinds : List LogLine) (kind : LogLine) :
    issuesOf name (kinds ++ [kind]) = issuesOf name kinds ++ (issueFor? name kinds kind).toList := by
  have hearlier : ∀ place ∈ List.range kinds.length,
      (kinds ++ [kind])[place]?.bind (issueFor? name ((kinds ++ [kind]).take place)) =
        kinds[place]?.bind (issueFor? name (kinds.take place)) := by
    intro place hplace
    have hlt : place < kinds.length := List.mem_range.mp hplace
    rw [List.getElem?_append_left hlt, List.take_append_of_le_length (Nat.le_of_lt hlt)]
  rw [issuesOf, List.length_append, List.length_singleton, List.range_succ, List.filterMap_append,
    List.filterMap_congr hearlier, ← issuesOf]
  refine congrArg _ ?_
  cases h : issueFor? name kinds kind <;> simp [h]

/-- Without a text there is no issue. -/
theorem issuesOf_of_isText (h : ∀ kind ∈ kinds, kind.isText = false) : issuesOf name kinds = [] := by
  rw [issuesOf, List.filterMap_eq_nil_iff]
  intro place _
  cases hkind : kinds[place]? with
  | none => rfl
  | some kind =>
    have hnone := h kind (List.mem_of_getElem? hkind)
    cases kind with
    | text line => cases hnone
    | _ => rfl

/-- A status line has an owner behind it, and only a status line that has been there can be the owner. -/
theorem mem_records_of_owner? (h : owner? kinds = some name) : name ∈ (records kinds).map (·.name) := by
  unfold owner? at h
  split at h
  · next r hfind =>
    cases h
    have hmem : LogLine.status r ∈ kinds := List.mem_reverse.mp (List.mem_of_find?_eq_some hfind)
    exact List.mem_map.mpr ⟨r, List.mem_filterMap.mpr ⟨_, hmem, rfl⟩, rfl⟩
  · cases h

/-- A linter that no line names has no issues: nobody can own the lines. -/
theorem issuesOf_eq_nil (h : name ∉ (records kinds).map (·.name)) : issuesOf name kinds = [] := by
  rw [issuesOf, List.filterMap_eq_nil_iff]
  intro place _
  cases hkind : kinds[place]? with
  | none => rfl
  | some kind =>
    rw [Option.bind_some]
    cases kind with
    | text line =>
      refine if_neg fun howner => h ?_
      obtain ⟨r, hr, hname⟩ := List.mem_map.mp (mem_records_of_owner? howner)
      exact List.mem_map.mpr ⟨r, ((List.take_sublist place kinds).filterMap _).subset hr, hname⟩
    | _ => rfl

theorem owner?_concat (kinds : List LogLine) (kind : LogLine) : owner? (kinds ++ [kind]) =
    match kind with
    | .status r => some r.name
    | .row _ => none
    | .border => none
    | .text _ => owner? kinds := by
  rw [owner?, List.reverse_append]
  cases kind <;> rfl

theorem eraseDups_concat_of_mem {names : List String} (h : name ∈ names) :
    (names ++ [name]).eraseDups = names.eraseDups := by
  have hnone : [name].removeAll names = [] := by
    simp [List.removeAll, h]
  rw [List.eraseDups_append, hnone]
  exact List.append_nil _

theorem eraseDups_concat_of_not_mem {names : List String} (h : name ∉ names) :
    (names ++ [name]).eraseDups = names.eraseDups ++ [name] := by
  have hone : [name].removeAll names = [name] := by
    simp [List.removeAll, h]
  rw [List.eraseDups_append, hone]
  rfl

/-- Without their repeats names are distinct. -/
theorem nodup_eraseDups (names : List String) : names.eraseDups.Nodup := by
  induction names using List.reverseRecOn with
  | nil => exact List.nodup_nil
  | append_singleton names name ih =>
    by_cases h : name ∈ names
    · rwa [eraseDups_concat_of_mem h]
    · rw [eraseDups_concat_of_not_mem h]
      exact List.nodup_append.mpr ⟨ih, List.nodup_singleton name, by
        intro a ha b hb
        rw [List.mem_singleton] at hb
        rintro rfl
        exact h (hb ▸ List.mem_eraseDups.mp ha)⟩

theorem eraseDups_of_nodup {names : List String} (h : names.Nodup) : names.eraseDups = names := by
  induction names using List.reverseRecOn with
  | nil => rfl
  | append_singleton names name ih =>
    obtain ⟨hnames, -, hdisjoint⟩ := List.nodup_append.mp h
    have hnew : name ∉ names := fun hmem => hdisjoint name hmem name (List.mem_singleton_self name) rfl
    rw [eraseDups_concat_of_not_mem hnew, ih hnames]

theorem greatest_concat (ns : List Nat) (n : Nat) : greatest (ns ++ [n]) = max (greatest ns) n := by
  rw [greatest, List.foldl_append]
  rfl

theorem issueFor?_of_record? (h : kind.record? = some r) : issueFor? name kinds kind = none := by
  cases kind with
  | text line => cases h
  | _ => rfl

/-- A line that is read as a record has no issues of its own. -/
theorem issues_of_ofLine {line : List Char} (h : (ofLine line).record? = some r) : r.issues = [] := by
  cases hkind : ofLine line with
  | status r' =>
    rw [hkind] at h
    cases h
    have hstatus := status?_of_ofLine hkind
    unfold status? at hstatus
    split at hstatus
    · cases hstatus
    · simp only [Option.bind_eq_bind, Option.bind_eq_some_iff] at hstatus
      obtain ⟨outcome, -, behind, -, named, -, counted, -, hresult⟩ := hstatus
      split at hresult
      · cases hresult
      · cases hresult
        rfl
  | row r' =>
    rw [hkind] at h
    cases h
    have hrow := row?_of_ofLine hkind
    unfold row? at hrow
    dsimp only at hrow
    split at hrow
    · cases hrow
    · split at hrow
      · obtain ⟨outcome, -, rfl⟩ := Option.map_eq_some_iff.mp hrow
        rfl
      · cases hrow
  | border =>
    rw [hkind] at h
    cases h
  | text line =>
    rw [hkind] at h
    cases h

end LogLine

/-! ## §2 — one linter

What the state has for one linter against what the lines say of it, line by line. -/

open LogLine

namespace LinterResult

/-- The result is what some records of its linter come to. -/
structure Merges (r : LinterResult) (records : List LinterResult) : Prop where
  /-- The last record tells how the linter ended. -/
  outcome : records.getLast?.map (·.outcome) = some r.outcome
  files : r.files = greatest (records.map (·.files))
  errors : r.errors = greatest (records.map (·.errors))
  warnings : r.warnings = greatest (records.map (·.warnings))
  fixable : r.fixable = greatest (records.map (·.fixable))
  /-- The first time that a record gives. -/
  duration : r.duration = records.findSome? (·.duration)

/-- The result gathers what the lines say about its linter. -/
structure Gathers (r : LinterResult) (kinds : List LogLine) : Prop where
  merges : r.Merges (recordsOf r.name kinds)
  issues : r.issues = issuesOf r.name kinds

variable {kinds : List LogLine} {kind : LogLine} {r s : LinterResult} {records : List LinterResult} {name : String}
  {i : Issue}

theorem merges_singleton (r : LinterResult) : r.Merges [r] where
  outcome := rfl
  files := (Nat.zero_max _).symm
  errors := (Nat.zero_max _).symm
  warnings := (Nat.zero_max _).symm
  fixable := (Nat.zero_max _).symm
  duration := by cases h : r.duration <;> simp [h]

/-- A further record is merged in: the later outcome and time, the larger counters. -/
theorem Merges.absorb (h : s.Merges records) (r : LinterResult) : (s.absorb r).Merges (records ++ [r]) where
  outcome := by
    rw [List.getLast?_concat]
    rfl
  files := by
    rw [List.map_append, List.map_singleton, greatest_concat, ← h.files]
    rfl
  errors := by
    rw [List.map_append, List.map_singleton, greatest_concat, ← h.errors]
    rfl
  warnings := by
    rw [List.map_append, List.map_singleton, greatest_concat, ← h.warnings]
    rfl
  fixable := by
    rw [List.map_append, List.map_singleton, greatest_concat, ← h.fixable]
    rfl
  duration := by
    rw [List.findSome?_append, ← h.duration]
    cases hr : r.duration <;> simp [LinterResult.absorb, hr]

/-- The first record of a linter. -/
theorem gathers_first (hnew : r.name ∉ (LogLine.records kinds).map (·.name)) (hkind : kind.record? = some r)
    (hissues : r.issues = []) : r.Gathers (kinds ++ [kind]) where
  merges := by
    rw [recordsOf_concat_of_eq hkind rfl, recordsOf_eq_nil hnew]
    exact merges_singleton r
  issues := by
    rw [issuesOf_concat, issuesOf_eq_nil hnew, issueFor?_of_record? hkind, hissues]
    rfl

/-- A later record of the same linter. -/
theorem Gathers.absorb (h : s.Gathers kinds) (hkind : kind.record? = some r) (hname : s.name = r.name) :
    (s.absorb r).Gathers (kinds ++ [kind]) where
  merges := by
    have hrecords : recordsOf s.name (kinds ++ [kind]) = recordsOf s.name kinds ++ [r] :=
      recordsOf_concat_of_eq hkind hname.symm
    exact hrecords ▸ h.merges.absorb r
  issues := by
    have hissues : issuesOf s.name (kinds ++ [kind]) = issuesOf s.name kinds := by
      rw [issuesOf_concat, issueFor?_of_record? hkind]
      exact List.append_nil _
    exact h.issues.trans hissues.symm

/-- A line that says nothing about the linter. -/
theorem Gathers.other (h : s.Gathers kinds) (hrecord : ∀ r, kind.record? = some r → r.name ≠ s.name)
    (hissue : issueFor? s.name kinds kind = none) : s.Gathers (kinds ++ [kind]) where
  merges := by
    rw [recordsOf_concat_of_ne hrecord]
    exact h.merges
  issues := by
    rw [issuesOf_concat, hissue, h.issues]
    exact (List.append_nil _).symm

/-- An issue of the linter. -/
theorem Gathers.issue (h : s.Gathers kinds) (hrecord : kind.record? = none)
    (hissue : issueFor? s.name kinds kind = some i) :
    Gathers { s with issues := s.issues ++ [i] } (kinds ++ [kind]) where
  merges := by
    have hrecords : recordsOf s.name (kinds ++ [kind]) = recordsOf s.name kinds :=
      recordsOf_concat_of_ne fun r hr => absurd (hrecord.symm.trans hr) (by nofun)
    have hmerges := h.merges
    exact hrecords ▸
      ⟨hmerges.outcome, hmerges.files, hmerges.errors, hmerges.warnings, hmerges.fixable, hmerges.duration⟩
  issues := by
    have hissues : issuesOf s.name (kinds ++ [kind]) = issuesOf s.name kinds ++ [i] := by
      rw [issuesOf_concat, hissue]
      rfl
    rw [hissues, ← h.issues]

/-! ## §3 — all linters

The invariant of the whole state. A line is a record, an issue, or says nothing; there is one lemma for each, and from them the
step. -/

variable {results : List LinterResult}

/-- Changing the result of a linter that has none changes nothing. -/
theorem map_ite_eq_self {f : LinterResult → LinterResult} (h : name ∉ results.map (·.name)) :
    (results.map fun s => if s.name = name then f s else s) = results := by
  have hothers : ∀ s ∈ results, (if s.name = name then f s else s) = s := by
    intro s hs
    refine if_neg fun hname => h ?_
    rw [← hname]
    exact List.mem_map_of_mem hs
  rw [List.map_congr_left hothers, List.map_id']

theorem record_of_not_mem (h : r.name ∉ results.map (·.name)) : r.record results = results ++ [r] := by
  induction results with
  | nil => rfl
  | cons s results ih =>
    rw [List.map_cons, List.mem_cons, not_or] at h
    rw [record, if_neg (Ne.symm h.1), ih h.2, List.cons_append]

/-- The record of a known linter is merged with what there is. -/
theorem record_of_mem (hdistinct : (results.map (·.name)).Nodup) (h : r.name ∈ results.map (·.name)) :
    r.record results = results.map fun s => if s.name = r.name then s.absorb r else s := by
  induction results with
  | nil => exact absurd h List.not_mem_nil
  | cons s results ih =>
    rw [List.map_cons, List.nodup_cons] at hdistinct
    rw [List.map_cons, List.mem_cons] at h
    by_cases hname : s.name = r.name
    · rw [record, if_pos hname, List.map_cons, if_pos hname, map_ite_eq_self (hname ▸ hdistinct.1)]
    · rw [record, if_neg hname, List.map_cons, if_neg hname, ih hdistinct.2 (h.resolve_left (Ne.symm hname))]

/-- An issue goes to the linter of that name. -/
theorem addIssue_eq (hdistinct : (results.map (·.name)).Nodup) (name : String) (i : Issue) : addIssue name i results =
    results.map fun s => if s.name = name then { s with issues := i :: s.issues } else s := by
  induction results with
  | nil => rfl
  | cons s results ih =>
    rw [List.map_cons, List.nodup_cons] at hdistinct
    by_cases hname : s.name = name
    · rw [addIssue, if_pos hname, List.map_cons, if_pos hname, map_ite_eq_self (hname ▸ hdistinct.1)]
    · rw [addIssue, if_neg hname, List.map_cons, if_neg hname, ih hdistinct.2]

/-- The result with its issues in the order of the log. -/
def inOrder (r : LinterResult) : LinterResult := { r with issues := r.issues.reverse }

end LinterResult

namespace LogState

variable {s : LogState} {kinds : List LogLine} {kind : LogLine} {r : LinterResult}

/-- What has been read gathers what the lines say. -/
structure Gathers (s : LogState) (kinds : List LogLine) : Prop where
  names : s.results.map (·.name) = ((records kinds).map (·.name)).eraseDups
  results : ∀ r ∈ s.results, r.inOrder.Gathers kinds
  current : s.current = owner? kinds

theorem Gathers.nodup (h : s.Gathers kinds) : (s.results.map (·.name)).Nodup := by
  rw [h.names]
  exact nodup_eraseDups _

/-- A record, whoever the owner of the lines behind it is. -/
theorem Gathers.record (h : s.Gathers kinds) (hkind : kind.record? = some r) (hissues : r.issues = []) :
    Gathers ⟨r.record s.results, owner? (kinds ++ [kind])⟩ (kinds ++ [kind]) := by
  have hnames : (records (kinds ++ [kind])).map (·.name) = (records kinds).map (·.name) ++ [r.name] := by
    rw [records_concat, hkind, List.map_append]
    rfl
  have hmem : r.name ∈ s.results.map (·.name) ↔ r.name ∈ (records kinds).map (·.name) := by
    rw [h.names, List.mem_eraseDups]
  -- linters with another name do not notice the line
  have hother : ∀ t ∈ s.results, t.name ≠ r.name → t.inOrder.Gathers (kinds ++ [kind]) := by
    intro t ht hname
    refine (h.results t ht).other (fun r' hr' => ?_) (issueFor?_of_record? hkind)
    rw [hkind] at hr'
    exact Option.some.inj hr' ▸ Ne.symm hname
  by_cases hold : r.name ∈ (records kinds).map (·.name)
  · rw [LinterResult.record_of_mem h.nodup (hmem.mpr hold)]
    refine ⟨?names, ?results, rfl⟩
    case names =>
      rw [hnames, eraseDups_concat_of_mem hold, ← h.names, List.map_map]
      refine List.map_congr_left fun t _ => ?_
      rw [Function.comp_apply]
      split <;> rfl
    case results =>
      intro t ht
      obtain ⟨u, hu, rfl⟩ := List.mem_map.mp ht
      split
      · next hname => exact (h.results u hu).absorb hkind hname
      · next hname => exact hother u hu hname
  · rw [LinterResult.record_of_not_mem (mt hmem.mp hold)]
    refine ⟨?names', ?results', rfl⟩
    case names' => rw [hnames, eraseDups_concat_of_not_mem hold, ← h.names, List.map_append, List.map_singleton]
    case results' =>
      intro t ht
      rcases List.mem_append.mp ht with ht | ht
      · refine hother t ht fun hname => hold (hmem.mp (hname ▸ List.mem_map_of_mem ht))
      · rw [List.mem_singleton] at ht
        subst ht
        have hinOrder : t.inOrder = t := by
          rw [LinterResult.inOrder, hissues, List.reverse_nil, ← hissues]
        rw [hinOrder]
        exact LinterResult.gathers_first hold hkind hissues

/-- A line that says nothing about any linter. -/
theorem Gathers.silent (h : s.Gathers kinds) (hrecord : kind.record? = none)
    (hissue : ∀ name, issueFor? name kinds kind = none) :
    Gathers ⟨s.results, owner? (kinds ++ [kind])⟩ (kinds ++ [kind]) where
  names := by
    rw [records_concat, hrecord, h.names]
    exact congrArg _ (congrArg _ (List.append_nil _).symm)
  results t ht := (h.results t ht).other (fun r hr => absurd (hrecord.symm.trans hr) (by nofun)) (hissue t.name)
  current := rfl

/-- An issue of the owner. -/
theorem Gathers.issue {line : List Char} {name : String} {i : Issue} (h : s.Gathers kinds)
    (howner : owner? kinds = some name) (hissue : issue? line = some i) :
    Gathers ⟨LinterResult.addIssue name i s.results, s.current⟩ (kinds ++ [.text line]) := by
  rw [LinterResult.addIssue_eq h.nodup]
  refine ⟨?names, ?results, ?current⟩
  case names =>
    rw [records_concat, List.map_map]
    refine Eq.trans (List.map_congr_left fun t _ => ?_) (h.names.trans (congrArg _ (congrArg _ (List.append_nil _).symm)))
    rw [Function.comp_apply]
    split <;> rfl
  case results =>
    intro t ht
    obtain ⟨u, hu, rfl⟩ := List.mem_map.mp ht
    split
    · next hname =>
      -- issues are kept in reverse while the log is read
      have hfor : issueFor? u.name kinds (.text line) = some i := by
        rw [issueFor?, if_pos (howner.trans (congrArg some hname.symm)), hissue]
      have hgathers := (h.results u hu).issue rfl hfor
      rwa [LinterResult.inOrder, ← List.reverse_cons] at hgathers
    · next hname =>
      refine (h.results u hu).other nofun (if_neg fun howner' => hname ?_)
      exact Option.some.inj (howner'.symm.trans howner)
  case current =>
    rw [owner?_concat]
    exact h.current

/-- **One more line of a log.** -/
theorem Gathers.step (h : s.Gathers kinds) (line : List Char) : (s.step line).Gathers (kinds ++ [LogLine.ofLine line]) := by
  have hissues : ∀ r, (LogLine.ofLine line).record? = some r → r.issues = [] := fun _ hr => issues_of_ofLine hr
  rw [LogState.step]
  cases hkind : LogLine.ofLine line with
  | status r =>
    rw [hkind] at hissues
    have hrecord : Gathers ⟨r.record s.results, owner? (kinds ++ [.status r])⟩ (kinds ++ [.status r]) :=
      h.record rfl (hissues r rfl)
    rwa [owner?_concat] at hrecord
  | row r =>
    rw [hkind] at hissues
    have hrecord : Gathers ⟨r.record s.results, owner? (kinds ++ [.row r])⟩ (kinds ++ [.row r]) :=
      h.record rfl (hissues r rfl)
    rwa [owner?_concat] at hrecord
  | border =>
    have hsilent : Gathers ⟨s.results, owner? (kinds ++ [.border])⟩ (kinds ++ [.border]) := h.silent rfl fun _ => rfl
    rwa [owner?_concat] at hsilent
  | text line =>
    -- a text is an issue only if a linter owns it and it reads like one
    have hsilent (hnone : ∀ name, issueFor? name kinds (.text line) = none) : s.Gathers (kinds ++ [.text line]) := by
      have hgathers : Gathers ⟨s.results, owner? (kinds ++ [.text line])⟩ (kinds ++ [.text line]) := h.silent rfl hnone
      rwa [owner?_concat, ← h.current] at hgathers
    dsimp only
    split
    · next name i howner hissue => exact h.issue (h.current ▸ howner) hissue
    · next hneither =>
      refine hsilent fun name => ?_
      rw [issueFor?]
      split
      · next howner =>
        cases hissue : issue? line with
        | none => rfl
        | some i => exact absurd hissue (hneither name i (h.current.trans howner))
      · rfl

/-- **All lines of a log.** -/
theorem gathers_foldl (lines : List (List Char)) :
    (lines.foldl LogState.step ⟨[], none⟩).Gathers (lines.map LogLine.ofLine) := by
  induction lines using List.reverseRecOn with
  | nil => exact ⟨rfl, fun r hr => absurd hr List.not_mem_nil, rfl⟩
  | append_singleton lines line ih =>
    rw [List.foldl_append, List.map_append]
    exact ih.step line

end LogState

theorem names_readLog (output : List Char) :
    (readLog output).map (·.name) = ((records ((Text.lines output).map LogLine.ofLine)).map (·.name)).eraseDups := by
  rw [readLog, LogState.read, List.map_map, ← (LogState.gathers_foldl (Text.lines output)).names]
  rfl

theorem gathers_of_mem_readLog {output : List Char} {r : LinterResult} (h : r ∈ readLog output) :
    r.Gathers ((Text.lines output).map LogLine.ofLine) := by
  obtain ⟨s, hs, rfl⟩ := List.mem_map.mp h
  exact (LogState.gathers_foldl (Text.lines output)).results s hs

/-- **A log gathers what its lines say.** There is one result for each linter with a record, in the order in which the linters
first occur. It has the outcome of the last record, the greatest of each number, the first time, and, in their order, the
issues on the lines whose nearest record or border before them is a status line of the linter. -/
theorem readLog_gathers (output : List Char) :
    (readLog output).map (·.name) = ((records ((Text.lines output).map LogLine.ofLine)).map (·.name)).eraseDups ∧
      ∀ r ∈ readLog output, r.Gathers ((Text.lines output).map LogLine.ofLine) :=
  ⟨names_readLog output, fun _ => gathers_of_mem_readLog⟩

end LintPlan
