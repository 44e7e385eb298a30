import LintPlan.Proofs.Execution.EventBlocks
import LintPlan.Proofs.Report.NamedTools
import LintPlan.Preferences

/-!
# Tools that events announce

When the events of a session say that a tool has started, a line of output made them say so: the line stands behind the
announcement, and it names a tool of the call that the announcement is about.

* **`Chatter.detected_of_toolStarted`** — an announcement in what was heard stands in front of the line that it comes from.
* **`told_toolStarted`** — only calls that have heard something announce a tool, at whatever stage.
* **`toolStarted_reported`** — so what a session announces is reported for lines of its calls.
-/

namespace LintPlan

open ToolMatcher

variable {id id' tool : String} {names : List String} {heard : List Heard} {es : List ExecutionEvent}

/-! ## §1 — what one call announces

An announcement stands directly in front of the line it comes from. -/

/-- A tool is announced where a line named it. -/
theorem mem_heard_of_toolStarted (h : .toolStarted id' tool ∈ opening id heard) :
    id' = id ∧ ∃ x ∈ heard, x.tool = some tool := by
  unfold opening at h
  simp only [List.mem_cons, List.mem_flatMap, reduceCtorEq, false_or] at h
  obtain ⟨x, hx, hmem⟩ := h
  unfold Heard.events at hmem
  cases htool : x.tool with
  | none => simp [htool] at hmem
  | some found =>
    rw [htool] at hmem
    obtain ⟨rfl, rfl⟩ : id' = id ∧ tool = found := by simpa using hmem
    exact ⟨rfl, x, hx, htool⟩

/-- **An announcement stands in front of the line that it comes from.** -/
theorem Chatter.detected_of_toolStarted (hchatter : Chatter names heard) (h : .toolStarted id' tool ∈ opening id heard) :
    id' = id ∧ ∃ stream line, [.toolStarted id tool, .output id stream line] <:+: opening id heard ∧
      (ofNames names).detect line = some tool := by
  obtain ⟨rfl, x, hx, htool⟩ := mem_heard_of_toolStarted h
  refine ⟨rfl, x.stream, x.line, ?_, hchatter.detected x hx tool htool⟩
  have hevents : x.events id' = [.toolStarted id' tool, .output id' x.stream x.line] := by
    rw [Heard.events, htool]
    rfl
  have hheard : x.events id' <:+: heard.flatMap (Heard.events id') := by
    rw [List.flatMap_def]
    exact List.infix_of_mem_flatten (List.mem_map_of_mem hx)
  rw [← hevents]
  exact hheard.trans (List.suffix_append [_, _] _).isInfix

/-- A block that announces a tool is that of a container that ran. -/
theorem Block.heard_of_toolStarted {last : Option ExecutionState} (hblock : Block id names last es)
    (h : .toolStarted id' tool ∈ es) :
    ∃ heard state, es = opening id heard ++ [.stateChanged id state] ∧ Chatter names heard := by
  cases hblock with
  | silent => simp at h
  | cancelled => simp at h
  | notStarted => simp at h
  | ran hchatter => exact ⟨_, _, rfl, hchatter⟩

/-- **Only a call that has heard something announces a tool.** -/
theorem told_toolStarted {stage : Stage} (htold : Told id names es stage) (h : .toolStarted id' tool ∈ es) :
    ∃ heard rest, es = opening id heard ++ rest ∧ Chatter names heard ∧ .toolStarted id' tool ∈ opening id heard := by
  have hquiet : es ≠ [] ∧ es ≠ [.stateChanged id .preparing] := by
    constructor
    · rintro rfl
      simp at h
    · rintro rfl
      simp at h
  have hrunning : ∀ heard, es = opening id heard → Chatter names heard →
      ∃ heard rest, es = opening id heard ++ rest ∧ Chatter names heard ∧ .toolStarted id' tool ∈ opening id heard := by
    rintro heard rfl hchatter
    exact ⟨heard, [], (List.append_nil _).symm, hchatter, h⟩
  cases stage with
  | arrived => exact htold.elim
  | admitted | checking | available => exact absurd htold hquiet.1
  | preparing | prepared | starting => exact absurd htold hquiet.2
  | running =>
    obtain ⟨heard, hes, hchatter, -⟩ := htold
    exact hrunning heard hes hchatter
  | stopping | waiting | killing =>
    obtain ⟨heard, hes, hchatter, -⟩ := htold
    exact hrunning heard hes hchatter
  | ended | reporting =>
    -- the state at the end is still to come
    obtain ⟨heard, state, hes, hchatter⟩ := htold.2.heard_of_toolStarted (List.mem_append_left _ h)
    exact hrunning heard (List.append_inj_left' hes rfl) hchatter
  | leaving | deaf | released | returned =>
    obtain ⟨heard, state, rfl, hchatter⟩ := htold.2.heard_of_toolStarted h
    refine ⟨heard, _, rfl, hchatter, ?_⟩
    simpa using h

/-! ## §2 — what a session announces

From the block of a call to the bus. -/

/-- A call of the session has announced a tool in front of a line for which it is reported. -/
def Session.Announced (s : Session) (es : List ExecutionEvent) (id tool : String) : Prop :=
  ∃ c ∈ s.calls, c.id = id ∧ ∃ stream line, [.toolStarted id tool, .output id stream line] <:+: es ∧
    Reported c.request.configuration.linters.enabledNames line tool

/-- **In a record, every announcement is one of a call in it.** -/
theorem Recorded.announced {bus : EventBus} {s : Session} {record : List (Nat × List ExecutionEvent)}
    (hrecord : Recorded bus s record) (h : .toolStarted id tool ∈ record.flatMap Prod.snd) :
    s.Announced (record.flatMap Prod.snd) id tool := by
  obtain ⟨⟨n, es⟩, hes, hmem⟩ := List.mem_flatMap.mp h
  obtain ⟨c, hc, htold⟩ := hrecord.told hes
  obtain ⟨heard, rest, rfl, hchatter, hopening⟩ := told_toolStarted htold hmem
  obtain ⟨rfl, stream, line, hin, hdetect⟩ := hchatter.detected_of_toolStarted hopening
  refine ⟨c, List.mem_of_getElem? hc, rfl, stream, line, ?_, reported_of_detect hdetect⟩
  rw [List.flatMap_def]
  exact (hin.trans (List.prefix_append _ rest).isInfix).trans (List.infix_of_mem_flatten (List.mem_map_of_mem hes))

/-- **What a session announces is reported for lines of its calls.** So it is a name of an enabled linter up to the case of
letters; that it is always the name as it is enabled depends on how many spellings of the names are enabled. -/
theorem toolStarted_reported (names : List String) :
    (∀ line tool, (ofNames names).detect line = some tool → Reported names line tool) ∧
    ((∀ name ∈ names, ']' ∉ name.toList) →
      ((∀ line tool, (ofNames names).detect line = some tool → tool ∈ names) ↔ ClosedUnderSpelling names)) ∧
    ∀ (setup : RunnerSetup) (files : FileTree) (bus : EventBus) (actions : List Action) (s : Session),
      (Session.start { Runner.idle setup files with bus := bus }).run actions = some s →
      ∃ es, s.runner.bus = bus.emitAll es ∧
        (∀ number subscriber, bus.listener? number = some subscriber →
          s.runner.bus.pending number = bus.pending number ++ es) ∧
        ∀ id tool, .toolStarted id tool ∈ es → s.Announced es id tool := by
  refine ⟨?_, detect_mem_iff, ?_⟩
  · intro line tool h
    exact reported_of_detect h
  · intro setup files bus actions s hrun
    obtain ⟨record, hrecord⟩ := recorded_run (by rfl) hrun
    refine ⟨record.flatMap Prod.snd, hrecord.emitted, ?_, ?_⟩
    · intro number subscriber hlistens
      rw [hrecord.emitted]
      exact EventBus.pending_emitAll hlistens _
    · intro id tool h
      exact hrecord.announced h

/-- One call for a linter comes to a container with a line of output. -/
def callWithLine (name line : String) : List Action :=
  [.call "only" request, .move 0 .goOn, .move 0 .goOn, .move 0 (.answer 1 true), .move 0 .goOn, .move 0 .goOn,
   .move 0 .goOn, .move 0 (.start none), .move 0 (.line .stdout line)]
where
  /-- A request with one linter for the root directory. -/
  request : RunRequest :=
    ⟨{ Configuration.standard with
        linters := ⟨[⟨name, none, .quality, .warning, true, [], ["**/*"], []⟩], [], []⟩ }, "/"⟩

/-- A linter in small letters that have no other spellings, on a line that has it in capitals. -/
theorem toolStarted_reported_capitals :
    (ofNames ["ruff"]).detect "Linting [PYTHON] files with RUFF" = some "ruff" ∧
      Reported ["ruff"] "Linting [PYTHON] files with RUFF" "ruff" ∧
      (∀ name ∈ ["ruff"], ']' ∉ name.toList) ∧ ClosedUnderSpelling ["ruff"] ∧
      (∀ line tool, (ofNames ["ruff"]).detect line = some tool → tool ∈ ["ruff"]) ∧
      ∃ s, (Session.start listenedTo).run (callWithLine "ruff" "Linting [PYTHON] files with RUFF") = some s ∧
        ∃ es, s.runner.bus.pending 0 = es ∧ .toolStarted "only" "ruff" ∈ es ∧ s.Announced es "only" "ruff" := by
  have hdetect : (ofNames ["ruff"]).detect "Linting [PYTHON] files with RUFF" = some "ruff" := by decide +kernel
  have hall : ∀ name ∈ ["ruff"], (name.toList.all fun c => decide (c.toNat < 128 ∧ c.isUpper = false)) = true := by decide
  have hclosed : ClosedUnderSpelling ["ruff"] :=
    closedUnderSpelling_of_small
      (fun name hname c hc => of_decide_eq_true (List.all_eq_true.1 (hall name hname) c hc)) (by decide)
  have hclosing : ∀ name ∈ ["ruff"], ']' ∉ name.toList := by decide
  have hannounces : (((Session.start listenedTo).run (callWithLine "ruff" "Linting [PYTHON] files with RUFF")).any fun s =>
      decide (.toolStarted "only" "ruff" ∈ s.runner.bus.pending 0)) = true := by decide +kernel
  obtain ⟨s, hrun, hmem⟩ := (Option.any_eq_true _ _).mp hannounces
  have hmem := of_decide_eq_true hmem
  obtain ⟨hreported, hexact, hsessions⟩ := toolStarted_reported ["ruff"]
  obtain ⟨es, -, hdelivered, hannounced⟩ := hsessions _ _ _ _ s hrun
  have hes : s.runner.bus.pending 0 = es := hdelivered 0 _ (by rfl)
  rw [hes] at hmem
  exact ⟨hdetect, hreported _ _ hdetect, hclosing, hclosed, (hexact hclosing).2 hclosed, s, hrun, es, hes, hmem,
    hannounced _ _ hmem⟩

/-- **A tool may be announced that is not enabled.** A name with capitals is announced in small letters, and a sign beyond
ASCII that stands for a letter of a name is announced as it stands. -/
theorem announced_not_enabled :
    Preferences.isPlainName "PSScriptAnalyzer" = true ∧
      (ofNames ["PSScriptAnalyzer"]).detect "[PSScriptAnalyzer] checking" = some "psscriptanalyzer" ∧
      "psscriptanalyzer" ∉ ["PSScriptAnalyzer"] ∧
      Preferences.isPlainName "eslint" = true ∧
      (ofNames ["eslint"]).detect "[e\u017Flint] checking" = some "e\u017Flint" ∧ "e\u017Flint" ∉ ["eslint"] ∧
      ∃ s, (Session.start listenedTo).run (callWithLine "PSScriptAnalyzer" "[PSScriptAnalyzer] checking") = some s ∧
        s.calls.map (fun c => c.request.configuration.linters.enabledNames) = [["PSScriptAnalyzer"]] ∧
        .toolStarted "only" "psscriptanalyzer" ∈ s.runner.bus.pending 0 := by
  have hcapitals : (ofNames ["PSScriptAnalyzer"]).detect "[PSScriptAnalyzer] checking" = some "psscriptanalyzer" := by
    decide +kernel
  have hlongS : (ofNames ["eslint"]).detect "[e\u017Flint] checking" = some "e\u017Flint" := by decide +kernel
  have hannounces : (((Session.start listenedTo).run
      (callWithLine "PSScriptAnalyzer" "[PSScriptAnalyzer] checking")).any fun s =>
        s.calls.map (fun c => c.request.configuration.linters.enabledNames) == [["PSScriptAnalyzer"]] &&
          decide (.toolStarted "only" "psscriptanalyzer" ∈ s.runner.bus.pending 0)) = true := by decide +kernel
  obtain ⟨s, hrun, hboth⟩ := (Option.any_eq_true _ _).mp hannounces
  obtain ⟨hnames, hmem⟩ := (Bool.and_eq_true _ _).mp hboth
  exact ⟨by decide, hcapitals, by decide, by decide, hlongS, by decide, s, hrun, beq_iff_eq.mp hnames,
    of_decide_eq_true hmem⟩

end LintPlan
