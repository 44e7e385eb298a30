import LintPlan.Execution.Completion
import LintPlan.Proofs.Execution.Attending
import LintPlan.Proofs.Execution.Starting
import LintPlan.Proofs.Report.Counters
import LintPlan.Proofs.Text.ReadingBack

/-!
# No line is lost

The readers of the two pipes, the process and the call take turns in any order. Whatever the order is, the call tells every
line of each pipe once and in order, and what it returns depends on the lines and on the exit only.

* **`toGo_act`**, **`progress`** — every step of the container's own brings the call nearer to its end, and there is one until it
  has returned.
* **`lines_textOf`** — the lines of the text that a watch keeps are the lines that it was put together from.
* **`run_lossless`** — all of it, for every interleaving. Only where the numbers of a report overflow their counters is there no
  record of what was told (`run_lossless_overflow`).
-/

namespace LintPlan

variable {n : Nat} {f f' : Feed} {a : FeedAction} {actions : List FeedAction} {c : Call} {exits : List ExitCode}
  {lines : OutputStream → List String}

/-! ## §1 — how much there is to do

A measure that each action of the call or its readers makes smaller. -/

/-- Is it an action of the readers, of the process, or of call number `n`? -/
def FeedAction.isOwn (n : Nat) : FeedAction → Bool
  | .read _ => true
  | .act (.move k _) => k == n
  | .act _ => false

/-- How many steps a call that is left alone has still to take, with those of the process. -/
def Stage.toGo : Stage → Nat
  | .running k w => 6 + k.exit.isNone.toNat + w.exit.isNone.toNat + w.pipesOpen.toNat
  | .ended _ => 5
  | .reporting _ => 4
  | .leaving _ => 3
  | .deaf _ => 2
  | .released _ => 1
  | _ => 0

/-- How many steps the reader of a pipe has still to take, with those that the call takes for its lines. -/
def toRead (unread : Option (List (List UInt8))) : Nat :=
  -- a line is read first and taken from the channel later; the reader leaves at the end
  (unread.map fun pieces => 2 * pieces.length + 1).getD 0

/-- How many steps lines on their way still take. -/
def Intake.toGo (i : Intake) : Nat := toRead (i.unread .stdout) + toRead (i.unread .stderr) + i.channel.length

/-- Reading leaves less to do. -/
theorem toGo_read {i i' : Intake} {stream : OutputStream} (h : i.read stream = some i') : i'.toGo < i.toGo := by
  rcases Intake.read_cases h with ⟨piece, more, line, hunread, -, rfl⟩ | ⟨left, hunread, -, rfl⟩
  · cases stream <;> simp [Intake.toGo, toRead, hunread] <;> omega
  · cases stream <;> simp [Intake.toGo, toRead, hunread]

def Move.takes : Move → Nat
  | .line .. => 1
  | _ => 0

/-- A line that is taken leaves less to do. -/
theorem toGo_take {i i' : Intake} {m : Move} (h : i.take m = some i') : i'.toGo + m.takes ≤ i.toGo := by
  rcases Intake.take_cases h with ⟨stream, text, channel, rfl, hchannel, rfl⟩ | ⟨hnoLine, rfl⟩
  · simp [Intake.toGo, Move.takes, hchannel, Nat.add_assoc]
  · have hnone : m.takes = 0 := by
      cases m
      case line stream text => exact absurd rfl (hnoLine stream text)
      all_goals rfl
    rw [hnone, Nat.add_zero]

/-- **A step of a call that is left alone** takes a line, or brings the call nearer to its end. -/
theorem Transition.toGo_lt {id : String} {q : RunRequest} {r r' : Runner} {st st' : Stage} {m : Move} {drained : Prop}
    (h : Transition id q n r st m r' st') (hcalm : m.isCalm = true) (hst : st.Attends lines exits drained) :
    st'.toGo < st.toGo + m.takes := by
  cases h
  -- a line that arrives leaves the stage as it is, and is paid for by the channel
  case line k w stream text hopen =>
    obtain ⟨hexit, hpipes⟩ : (w.add stream text).exit = w.exit ∧ (w.add stream text).pipesOpen = w.pipesOpen := by
      cases stream <;> exact ⟨rfl, rfl⟩
    rw [Stage.toGo, Stage.toGo, hexit, hpipes]
    exact Nat.lt_succ_self _
  case exit => simp [Stage.toGo, Move.takes]
  case pipesClose hopen hunseen => simp [Stage.toGo, Move.takes, hopen]
  case noticeExit hopen hunseen => simp [Stage.toGo, Move.takes, hopen, hunseen]
  case pipesCloseLast | noticeExitLast =>
    show 5 < 6 + _ + _ + _ + 0
    omega
  case clearSlot | report | stopListening | release | ret => exact Nat.lt_succ_self _
  case waitFails | timeUp | noticeCancel => cases hcalm
  all_goals exact hst.elim

/-- **An action of the container's own** leaves less to do, and others leave as much. -/
theorem toGo_act {drained : Prop} (hc : f.session.calls[n]? = some c) (h : f.act n a = some f')
    (hcalm : ∀ m, a = .act (.move n m) → m.isCalm = true) (hattends : c.stage.Attends lines exits drained) :
    ∃ st, f'.session.calls[n]? = some { c with stage := st } ∧
      st.toGo + f'.intake.toGo + (if a.isOwn n then 1 else 0) ≤ c.stage.toGo + f.intake.toGo := by
  rcases Feed.act_cases h with ⟨stream, i, rfl, hread, rfl⟩ | ⟨b, i, s, rfl, htake, hact, rfl⟩
  · have hless := toGo_read hread
    have hown : (FeedAction.read stream).isOwn n = true := rfl
    refine ⟨c.stage, hc, ?_⟩
    rw [if_pos hown]
    show c.stage.toGo + i.toGo + 1 ≤ _
    omega
  · -- another action leaves the call and the intake; a move of the call makes one of them smaller
    rcases call_after hact hc with ⟨hsame, hother⟩ | ⟨m, st, rfl, ht, hst⟩
    · rw [Feed.take_other hother, Option.some.injEq] at htake
      subst htake
      have hnot : (FeedAction.act b).isOwn n = false := by
        cases b
        case move k m =>
          refine beq_eq_false_iff_ne.mpr ?_
          rintro rfl
          exact hother m rfl
        all_goals rfl
      refine ⟨c.stage, hsame, ?_⟩
      rw [hnot, if_neg Bool.false_ne_true]
      exact le_refl _
    · rw [Feed.take_own] at htake
      have hstage := ht.toGo_lt (hcalm m rfl) hattends
      have hintake := toGo_take htake
      have hown : (FeedAction.act (.move n m)).isOwn n = true := beq_self_eq_true n
      refine ⟨st, hst, ?_⟩
      rw [if_pos hown]
      show st.toGo + i.toGo + 1 ≤ _
      omega

/-! ## §2 — there is always something to do

As long as the call has not returned, some action is possible. -/

/-- A reader that has not left can read. -/
theorem read_isSome {i : Intake} {stream : OutputStream} (h : (i.unread stream).isSome = true) :
    (i.read stream).isSome = true := by
  unfold Intake.read
  split
  case h_1 hnone =>
    rw [hnone] at h
    cases h
  case h_2 => rfl
  case h_3 piece more _ => cases Pipe.text? piece <;> rfl

/-- A move is possible if its line is there and the call can make the step. -/
theorem act_move_isSome {m : Move} (hc : f.session.calls[n]? = some c) (htake : (f.intake.take m).isSome = true)
    (hstep : (c.step n f.session.runner m).isSome = true) : (f.act n (.act (.move n m))).isSome = true := by
  obtain ⟨i, hi⟩ := Option.isSome_iff_exists.mp htake
  obtain ⟨next, hnext⟩ := Option.isSome_iff_exists.mp hstep
  have hact : f.session.act (.move n m) = some ⟨next.1, f.session.calls.set n { c with stage := next.2 }⟩ := by
    show f.session.move n m = _
    unfold Session.move
    rw [hc]
    dsimp only
    rw [hnext, Option.map_some]
  unfold Feed.act
  dsimp only
  rw [Feed.take_own, hi, hact]
  rfl

/-- **A call that has not returned goes on**, or its process exits with whatever code it has, or a reader reads. -/
theorem progress (hc : f.session.calls[n]? = some c)
    (hattends : c.stage.Attends lines exits (f.intake.isOver = true)) (hout : c.stage.result? = none) (code : ExitCode) :
    ∃ a, (f.act n a).isSome = true ∧ a.isOwn n = true ∧ Undisturbed n [a] ∧ exitsOf n [a] ⊆ [code] := by
  -- it is enough to find a move that the intake and the stage of the call allow, or a reader that has not left
  have hmove : ∀ m : Move, m.isCalm = true → m.exits ⊆ [code] → (f.intake.take m).isSome = true →
      (c.step n f.session.runner m).isSome = true →
      ∃ a, (f.act n a).isSome = true ∧ a.isOwn n = true ∧ Undisturbed n [a] ∧ exitsOf n [a] ⊆ [code] := by
    intro m hcalm hexits htake hstep
    refine ⟨_, act_move_isSome hc htake hstep, beq_self_eq_true n, ?_, by simpa [exitsOf] using hexits⟩
    intro m' hm'
    cases List.mem_singleton.mp hm'
    exact hcalm
  have hread : ∀ stream, (f.intake.unread stream).isSome = true →
      ∃ a, (f.act n a).isSome = true ∧ a.isOwn n = true ∧ Undisturbed n [a] ∧ exitsOf n [a] ⊆ [code] := by
    intro stream hunread
    refine ⟨.read stream, ?_, rfl, ?_, List.nil_subset _⟩
    · show ((f.intake.read stream).map _).isSome = true
      rw [Option.isSome_map]
      exact read_isSome hunread
    · intro m hm
      cases List.mem_singleton.mp hm
  cases hs : c.stage <;> rw [hs] at hattends hout
  case running k w =>
    obtain ⟨-, -, -, -, hgoing⟩ := hattends
    rcases Bool.eq_false_or_eq_true w.pipesOpen with hopen | hclosed
    · -- lines that can be read are read, lines that were passed on are taken, and then the pipes are closed
      by_cases hstdout : (f.intake.unread .stdout).isSome = true
      · exact hread .stdout hstdout
      by_cases hstderr : (f.intake.unread .stderr).isSome = true
      · exact hread .stderr hstderr
      cases hchannel : f.intake.channel with
      | nil =>
        have hover : f.intake.isOver = true := by simp_all [Intake.isOver]
        refine hmove .pipesClose rfl (List.nil_subset _) ?_ ?_
        · rw [Intake.take, if_pos hover]
          rfl
        · simp only [Call.step, hs, Call.attend, hopen]
          rfl
      | cons oldest channel =>
        refine hmove (.line oldest.1 oldest.2) rfl (List.nil_subset _) ?_ ?_
        · rw [Intake.take, hchannel]
          simp
        · simp only [Call.step, hs, Call.attend, hopen]
          rfl
    · -- the exit is what is missing
      have hunseen : w.exit = none := by
        cases hexit : w.exit with
        | none => rfl
        | some seen =>
          rw [Watch.outcome?, hclosed, hexit] at hgoing
          cases hgoing
      cases hexited : k.exit with
      | none =>
        refine hmove (.exit code) rfl (List.Subset.refl _) rfl ?_
        simp only [Call.step, hs, Call.attend, hexited]
        rfl
      | some other =>
        refine hmove .noticeExit rfl (List.nil_subset _) rfl ?_
        simp only [Call.step, hs, Call.attend, hexited, hunseen]
        rfl
  case ended | reporting | leaving | deaf | released =>
    refine hmove .goOn rfl (List.nil_subset _) rfl ?_
    simp only [Call.step, hs, Call.depart]
    rfl
  case returned => cases hout
  all_goals exact hattends.elim

/-! ## §3 — what is returned

What the lines make of an exit. -/

/-- Lines that are put together are cut again, if none has a line end inside. -/
theorem lines_textOf {ls : List String} (h : ∀ line ∈ ls, '\n' ∉ line.toList ∧ '\r' ∉ line.toList) :
    Text.lines (Watch.textOf ls) = ls.map String.toList := by
  have htext : Watch.textOf ls = (ls.map String.toList).flatMap (· ++ ['\n']) := by
    rw [List.flatMap_map]
    rfl
  rw [htext, Text.lines_flatMap, List.map_map]
  · -- no line ends in a carriage return that would be taken for a part of its end
    refine List.map_congr_left fun line hline => ?_
    show Text.dropReturn line.toList = line.toList
    exact if_neg fun hlast => (h line hline).2 (List.mem_of_getLast? hlast)
  · intro l hl
    obtain ⟨line, hline, rfl⟩ := List.mem_map.mp hl
    exact (h line hline).1

/-- What a call returns says of its container that it has written these lines and exited with this code. -/
structure Reports (lines : OutputStream → List String) (code : ExitCode) (outcome : RunOutcome) : Prop where
  /-- After the exit code zero the lines on standard output are read, each with a line feed behind it. If the totals of what is
  read fit their counters, the record of the run has them, with the linters, the warnings, and the numbers of lines and linters.
  If they do not fit, there is no record. -/
  success : code = some 0 → ∃ captured, outcome = .ok captured ∧
    ∀ (stamp : Stamp) (configuration : Configuration) (profile : Option Profile),
      let reading := OutputReading.read ((lines .stdout).flatMap fun line => line.toList ++ ['\n'])
      ((Summary.ofResults reading.results).Fits →
        ∃ results, captured.results? stamp configuration profile = some results ∧
          results.linters = reading.results ∧ results.summary = .ofResults reading.results ∧
          results.warnings = reading.warnings.map OutputWarning.message ∧
          results.metrics.outputLines = (lines .stdout).length + (lines .stderr).length ∧
          results.metrics.lintersExecuted = reading.results.length) ∧
      (¬ (Summary.ofResults reading.results).Fits → captured.results? stamp configuration profile = none)
  /-- After any other exit there is an error with the code, if there is one, and the last lines on standard error. -/
  failure : code ≠ some 0 → outcome = .error (.nonZeroExit code
    (Text.joined "\n" ((lines .stderr).drop ((lines .stderr).length - min 20 (lines .stderr).length))))

/-- **What comes of a container** reports its lines. -/
theorem reports_outcomeOf (h : ∀ line ∈ lines .stderr, '\n' ∉ line.toList ∧ '\r' ∉ line.toList) (code : ExitCode) :
    Reports lines code (outcomeOf lines code) := by
  constructor
  · rintro rfl
    refine ⟨_, rfl, fun stamp configuration profile => ⟨fun hfits => ?_, fun hfits => ?_⟩⟩
    · exact ⟨_, Captured.results?_eq_some_iff.mpr ⟨rfl, hfits⟩, rfl, rfl, rfl, rfl, rfl⟩
    · exact Captured.results?_eq_none_iff.mpr hfits
  · intro hcode
    rw [outcomeOf, if_neg hcode, lines_textOf h]
    have hlength : (lines .stderr).length - Watch.tailLines = (lines .stderr).length - min 20 (lines .stderr).length := by
      show (lines .stderr).length - 20 = _
      omega
    have htexts : ∀ ls : List String, (ls.map String.toList).map String.ofList = ls := by
      intro ls
      rw [List.map_map]
      exact (List.map_congr_left fun s _ => String.ofList_toList).trans (List.map_id ls)
    dsimp only
    rw [List.length_map, hlength, ← List.map_drop, htexts]

/-! ## §4 — every interleaving

All together: whatever order the actions come in, the call returns with all lines, after a bounded number of actions. -/

/-- In a feed `f` that the actions led to, nothing was lost of the lines that the container of call number `n` writes; `c` is
the call when the container was started, and `t` the session. -/
structure Lossless (n : Nat) (c : Call) (t : Session) (lines : OutputStream → List String) (bound : Nat)
    (actions : List FeedAction) (f : Feed) : Prop where
  /-- Everybody who listened when the container was started has got what has been told since. -/
  delivered : ∀ number subscriber, t.runner.bus.listener? number = some subscriber →
    f.session.runner.bus.pending number =
      t.runner.bus.pending number ++ (t.told (sessionActions actions)).map Prod.snd
  /-- The lines of each pipe that the call has told are the first ones that the container writes to it, in order. -/
  soFar : ∀ stream, linesTold n c.id stream (t.told (sessionActions actions)) <+: lines stream
  /-- When the call has returned, it has told all of them, the process has exited, and the outcome reports both. -/
  returned : ∀ outcome, f.session.result? n = some outcome →
    (∀ stream, linesTold n c.id stream (t.told (sessionActions actions)) = lines stream) ∧
      ∃ code, exitsOf n actions = [code] ∧ Reports lines code outcome
  /-- Until then there is always something that readers, process or call can do, without a deadline or a request. -/
  goesOn : f.session.result? n = none → ∀ code, ∃ a, (f.act n a).isSome = true ∧ a.isOwn n = true ∧ Undisturbed n [a] ∧
    exitsOf n [a] ⊆ [code]
  /-- And they cannot do more than this in all. -/
  bounded : actions.countP (·.isOwn n) ≤ bound

variable {s t : Session} {written : OutputStream → List UInt8}

/-- **What there is to do gets less** with every action of the container's own. -/
theorem toGo_run (hstart : s.act (.move n (.start none)) = some t) (hc : t.calls[n]? = some c)
    (hrun : Feed.run ⟨t, .start written⟩ n actions = some f) (hcalm : Undisturbed n actions) :
    ∃ st, f.session.calls[n]? = some { c with stage := st } ∧
      st.toGo + f.intake.toGo + actions.countP (·.isOwn n) ≤ c.stage.toGo + (Intake.start written).toGo := by
  refine Feed.run_history (I := fun before g => Undisturbed n before → ∃ st,
    g.session.calls[n]? = some { c with stage := st } ∧
      st.toGo + g.intake.toGo + before.countP (·.isOwn n) ≤ c.stage.toGo + (Intake.start written).toGo) ?_ ?_ hrun hcalm
  · rintro -
    exact ⟨c.stage, hc, le_refl _⟩
  · intro before g a g' hg ih ha hcalm
    obtain ⟨hbefore, hlast⟩ := hcalm.of_concat
    obtain ⟨st, hst, hle⟩ := ih hbefore
    obtain ⟨st', hst', hattends⟩ := attends_run hstart hc hg hbefore
    obtain rfl : st = st' := by
      have hsame := Option.some.inj (hst.symm.trans hst')
      exact congrArg Call.stage hsame
    obtain ⟨next, hnext, hless⟩ := toGo_act hst ha hlast hattends
    have hless' : next.toGo + g'.intake.toGo + (if a.isOwn n then 1 else 0) ≤ st.toGo + g.intake.toGo := hless
    refine ⟨next, hnext, ?_⟩
    rw [List.countP_append, List.countP_singleton]
    omega

/-- **No line is lost.** Whatever the readers, the process, the call and other calls do in turns, as long as the call is left
alone by its deadline and by requests to cancel: the call tells what the container writes, and returns what it says. -/
theorem run_lossless (hstart : s.act (.move n (.start none)) = some t) (hc : t.calls[n]? = some c)
    (hwritten : ∀ stream, Pipe.segments (written stream) = (lines stream).map Text.bytesOf)
    (hplain : ∀ stream, ∀ line ∈ lines stream, '\r' ∉ line.toList)
    (hrun : Feed.run ⟨t, .start written⟩ n actions = some f) (hcalm : Undisturbed n actions) :
    Lossless n c t lines (2 * ((lines .stdout).length + (lines .stderr).length) + 11) actions f := by
  have hlines : ∀ stream, Pipe.lines (written stream) = lines stream := fun stream => Pipe.lines_eq (hwritten stream)
  -- so what is told is a first part of what is written, whether or not the call has returned
  have hbalanced : ∀ stream, linesTold n c.id stream (t.told (sessionActions actions)) ++ f.intake.waiting stream =
      lines stream := by
    intro stream
    rw [balanced_run (f := ⟨t, .start written⟩) hc hrun stream, Intake.waiting_start, hlines]
  obtain ⟨st, hst, hattends⟩ := attends_run hstart hc hrun hcalm
  have hresult : f.session.result? n = st.result? := by
    rw [Session.result?, hst]
    rfl
  refine ⟨?_, ?_, ?_, ?_, ?_⟩
  · intro number subscriber hlistens
    exact pending_told (Feed.session_run hrun) hlistens
  · intro stream
    rw [← hbalanced stream]
    exact List.prefix_append _ _
  · intro outcome houtcome
    obtain ⟨hall, code, hcode, rfl⟩ := returned_run hstart hc hrun hcalm houtcome
    simp only [hlines] at hall ⊢
    refine ⟨hall, code, hcode, reports_outcomeOf ?_ code⟩
    intro line hline
    exact ⟨Pipe.lineFeed_not_mem_lines (hlines .stderr ▸ hline), hplain .stderr line hline⟩
  · intro hout code
    rw [hresult] at hout
    exact progress hst hattends hout code
  · -- two steps for each line, one for each reader to leave, and nine for the call and its process
    obtain ⟨st', -, hle⟩ := toGo_run hstart hc hrun hcalm
    obtain ⟨d, spec, hd, hstage⟩ := stage_of_start hstart
    obtain rfl : c = d := Option.some.inj (hc.symm.trans hd)
    have hpieces : ∀ stream, (Pipe.pieces (written stream)).length = (lines stream).length := by
      intro stream
      have hlength := congrArg List.length (hwritten stream)
      rwa [← Pipe.map_withoutEnd_pieces, List.length_map, List.length_map] at hlength
    have hstageToGo : c.stage.toGo = 9 := by
      rw [hstage]
      rfl
    have hintake : (Intake.start written).toGo = 2 * ((lines .stdout).length + (lines .stderr).length) + 2 := by
      show 2 * (Pipe.pieces (written .stdout)).length + 1 + (2 * (Pipe.pieces (written .stderr)).length + 1) + 0 = _
      rw [hpieces, hpieces]
      omega
    omega

def writtenAs (lines : OutputStream → List String) (stream : OutputStream) : List UInt8 :=
  (lines stream).flatMap fun line => Text.bytesOf line ++ [Pipe.lineFeed]

def threeLines : OutputStream → List String
  | .stdout => ["Linting ruff", "ok"]
  | .stderr => ["careful"]

/-- The process exits before most of its lines are read, and the exit is noticed before most of them are told. -/
def interleaved : List FeedAction :=
  [.read .stdout, .read .stderr, .act (.move 0 (.exit (some 0))), .act (.move 0 (.line .stdout "Linting ruff")),
   .act (.move 0 .noticeExit), .read .stdout, .read .stdout, .act (.move 0 (.line .stderr "careful")), .read .stderr,
   .act .cancel, .act (.move 0 (.line .stdout "ok")), .act (.move 0 .pipesClose), .act (.move 0 .goOn),
   .act (.move 0 .goOn), .act (.move 0 .goOn), .act (.move 0 .goOn), .act (.move 0 .goOn)]

/-- An interleaving in which a request to cancel comes too late to be noticed. -/
theorem run_lossless_interleaved :
    ∃ (s t : Session) (c : Call) (f : Feed), s.act (.move 0 (.start none)) = some t ∧ t.calls[0]? = some c ∧
      Feed.run ⟨t, .start (writtenAs threeLines)⟩ 0 interleaved = some f ∧
      f.session.result? 0 = some (.ok ⟨["Linting ruff", "ok"], 3⟩) ∧
      Lossless 0 c t threeLines 17 interleaved f := by
  have hall : (((Session.start listenedTo).run untilStarted).any fun t =>
      (Feed.run ⟨t, .start (writtenAs threeLines)⟩ 0 interleaved).any fun f =>
        f.session.result? 0 == some (.ok ⟨["Linting ruff", "ok"], 3⟩)) = true := by decide +kernel
  obtain ⟨t, ht, hfeed⟩ := (Option.any_eq_true _ _).mp hall
  obtain ⟨f, hrun, hresult⟩ := (Option.any_eq_true _ _).mp hfeed
  obtain ⟨s, hstart⟩ := start_of_untilStarted ht
  obtain ⟨c, spec, hc, -⟩ := stage_of_start hstart
  have hplain : ∀ stream, ∀ line ∈ threeLines stream, '\n' ∉ line.toList ∧ '\r' ∉ line.toList := by
    intro stream
    cases stream <;> decide
  refine ⟨s, t, c, f, hstart, hc, hrun, beq_iff_eq.mp hresult, ?_⟩
  exact run_lossless hstart hc (fun stream => Pipe.segments_flatMap (hplain stream))
    (fun stream line hline => (hplain stream line hline).2) hrun (undisturbed_of_all (by decide))

/-- One line, a report of more findings than a counter can hold. -/
def crowdedLines : OutputStream → List String
  | .stdout => [String.ofList crowdedReport]
  | .stderr => []

/-- The line is read and told, the process exits, and the call returns. -/
def undisturbed : List FeedAction :=
  [.read .stdout, .act (.move 0 (.line .stdout (String.ofList crowdedReport))), .read .stdout, .read .stderr,
   .act (.move 0 .pipesClose), .act (.move 0 (.exit (some 0))), .act (.move 0 .noticeExit), .act (.move 0 .goOn),
   .act (.move 0 .goOn), .act (.move 0 .goOn), .act (.move 0 .goOn), .act (.move 0 .goOn)]

/-- **No record for a report that is too large.** Nothing disturbs the call, the process exits with zero, and the call returns
what was captured; but then the counters overflow, so that there are no results. -/
theorem run_lossless_overflow :
    ∃ (s t : Session) (c : Call) (f : Feed) (captured : Captured),
      s.act (.move 0 (.start none)) = some t ∧ t.calls[0]? = some c ∧
      (∀ stream, Pipe.segments (writtenAs crowdedLines stream) = (crowdedLines stream).map Text.bytesOf) ∧
      (∀ stream, ∀ line ∈ crowdedLines stream, '\r' ∉ line.toList) ∧
      Feed.run ⟨t, .start (writtenAs crowdedLines)⟩ 0 undisturbed = some f ∧ Undisturbed 0 undisturbed ∧
      exitsOf 0 undisturbed = [some 0] ∧ f.session.result? 0 = some (.ok captured) ∧
      ∀ (stamp : Stamp) (configuration : Configuration) (profile : Option Profile),
        captured.results? stamp configuration profile = none := by
  have hall : (((Session.start listenedTo).run untilStarted).any fun t =>
      (Feed.run ⟨t, .start (writtenAs crowdedLines)⟩ 0 undisturbed).any fun f =>
        f.session.result? 0 == some (.ok ⟨[String.ofList crowdedReport], 1⟩)) = true := by decide +kernel
  obtain ⟨t, ht, hfeed⟩ := (Option.any_eq_true _ _).mp hall
  obtain ⟨f, hrun, hresult⟩ := (Option.any_eq_true _ _).mp hfeed
  obtain ⟨s, hstart⟩ := start_of_untilStarted ht
  obtain ⟨c, spec, hc, -⟩ := stage_of_start hstart
  have hplain : ∀ stream, ∀ line ∈ crowdedLines stream, '\n' ∉ line.toList ∧ '\r' ∉ line.toList := by
    intro stream
    cases stream <;> decide +kernel
  have hreading : (Captured.mk [String.ofList crowdedReport] 1).reading =
      ⟨[⟨"a", .failed, 0, 18446744073709551615, 1, 0, none, []⟩], []⟩ := by decide +kernel
  refine ⟨s, t, c, f, _, hstart, hc, fun stream => Pipe.segments_flatMap (hplain stream),
    fun stream line hline => (hplain stream line hline).2, hrun, undisturbed_of_all (by decide), rfl,
    beq_iff_eq.mp hresult, fun stamp configuration profile => ?_⟩
  rw [Captured.results?_eq_none_iff, hreading]
  rintro ⟨-, hissues, -⟩
  exact absurd hissues (by decide)

end LintPlan
