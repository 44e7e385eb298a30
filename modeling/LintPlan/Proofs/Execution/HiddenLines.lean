import LintPlan.Execution.Completion
import LintPlan.Proofs.Execution.Attending
import LintPlan.Proofs.Execution.Starting

/-!
# Lines behind a line that is no text

A container may write any bytes. The reader of a pipe leaves at the first line that is no text, exactly as it does at the end of
the pipe, so the call learns nothing of the lines behind it, and nothing says that there were any:

* **`run_upToUndecodable`** — for all bytes and every interleaving, the lines up to there are told and captured.
* **`line_behind_hidden`** — a line behind it is not, although it is a text.
-/

namespace LintPlan

/-- These texts are lines of the bytes, from the first one on, and the line behind them is the encoding of no text, if there
is one. -/
structure UpToUndecodable (bytes : List UInt8) (texts : List String) : Prop where
  front : texts.map Text.bytesOf <+: Pipe.segments bytes
  stop : ∀ bad, (Pipe.segments bytes)[texts.length]? = some bad → ∀ s, bad ≠ Text.bytesOf s

theorem upToUndecodable_lines (bytes : List UInt8) : UpToUndecodable bytes (Pipe.lines bytes) :=
  ⟨Pipe.lines_front bytes, fun _ => Pipe.lines_stop⟩

variable {n : Nat} {s t : Session} {f : Feed} {actions : List FeedAction} {c : Call}
  {written : OutputStream → List UInt8}

/-- In a feed `f` that the actions led to, the container of call number `n` was read up to its first line that is no text; `c` is
the call when the container was started, and `t` the session. -/
structure ReadUpToUndecodable (n : Nat) (c : Call) (t : Session) (written : OutputStream → List UInt8)
    (actions : List FeedAction) (f : Feed) : Prop where
  /-- Everybody who listened when the container was started has got what has been told since. -/
  delivered : ∀ number subscriber, t.runner.bus.listener? number = some subscriber →
    f.session.runner.bus.pending number =
      t.runner.bus.pending number ++ (t.told (sessionActions actions)).map Prod.snd
  /-- The lines of each pipe that the call has told are the first ones that the container writes to it, in order. -/
  soFar : ∀ stream, (linesTold n c.id stream (t.told (sessionActions actions))).map Text.bytesOf <+:
    Pipe.segments (written stream)
  /-- When the call has returned, it has told the lines up to the first one that is no text, and these are the lines in the
  outcome and in the text that is read for results. -/
  returned : ∀ outcome, f.session.result? n = some outcome →
    ∃ lines : OutputStream → List String, (∀ stream, UpToUndecodable (written stream) (lines stream)) ∧
      (∀ stream, linesTold n c.id stream (t.told (sessionActions actions)) = lines stream) ∧
      ∃ code, exitsOf n actions = [code] ∧ outcome = outcomeOf lines code ∧
        ∀ captured, outcome = .ok captured → captured.reading = .read (Watch.textOf (lines .stdout))

theorem reading_outcomeOf {lines : OutputStream → List String} {code : ExitCode} {captured : Captured}
    (h : outcomeOf lines code = .ok captured) : captured.reading = .read (Watch.textOf (lines .stdout)) := by
  unfold outcomeOf at h
  split at h
  · cases h
    rfl
  · cases h

/-- **The lines up to the first one that is no text** are told and captured, for whatever bytes the container writes and
whatever the readers, the process, the call and other calls do in turns, when the call is left alone. -/
theorem run_upToUndecodable (hstart : s.act (.move n (.start none)) = some t) (hc : t.calls[n]? = some c)
    (hrun : Feed.run ⟨t, .start written⟩ n actions = some f) (hcalm : Undisturbed n actions) :
    ReadUpToUndecodable n c t written actions f := by
  refine ⟨?_, ?_, ?_⟩
  · intro number subscriber hlistens
    exact pending_told (Feed.session_run hrun) hlistens
  · intro stream
    have htold : linesTold n c.id stream (t.told (sessionActions actions)) <+: Pipe.lines (written stream) :=
      ⟨_, balanced_run (f := ⟨t, .start written⟩) hc hrun stream⟩
    exact (htold.map Text.bytesOf).trans (Pipe.lines_front _)
  · intro outcome houtcome
    obtain ⟨hall, code, hcode, rfl⟩ := returned_run hstart hc hrun hcalm houtcome
    refine ⟨fun stream => Pipe.lines (written stream), fun stream => upToUndecodable_lines _, hall, code, hcode, rfl, ?_⟩
    intro captured hcaptured
    exact reading_outcomeOf hcaptured

/-- Two lines that are texts, and between them a line that is none. -/
def badLineBetween : OutputStream → List UInt8
  | .stdout => Text.bytesOf "ok" ++ [10, 255, 10] ++ Text.bytesOf "tail" ++ [10]
  | .stderr => []

def readAndReturned : List FeedAction :=
  -- the second time the reader of standard output leaves
  [.read .stdout, .read .stdout, .read .stderr, .act (.move 0 (.line .stdout "ok")), .act (.move 0 .pipesClose),
   .act (.move 0 (.exit (some 0))), .act (.move 0 .noticeExit), .act (.move 0 .goOn), .act (.move 0 .goOn),
   .act (.move 0 .goOn), .act (.move 0 .goOn), .act (.move 0 .goOn)]

theorem undisturbed_readAndReturned : Undisturbed 0 readAndReturned := undisturbed_of_all (by decide)

/-- A container with a line that is no text. -/
theorem run_upToUndecodable_badLineBetween :
    ∃ (s t : Session) (c : Call) (f : Feed), s.act (.move 0 (.start none)) = some t ∧ t.calls[0]? = some c ∧
      Feed.run ⟨t, .start badLineBetween⟩ 0 readAndReturned = some f ∧
      ReadUpToUndecodable 0 c t badLineBetween readAndReturned f := by
  have hall : (((Session.start listenedTo).run untilStarted).any fun t =>
      (Feed.run ⟨t, .start badLineBetween⟩ 0 readAndReturned).isSome) = true := by decide
  obtain ⟨t, ht, hfeed⟩ := (Option.any_eq_true _ _).mp hall
  obtain ⟨f, hrun⟩ := Option.isSome_iff_exists.mp hfeed
  obtain ⟨s, hstart⟩ := start_of_untilStarted ht
  obtain ⟨c, spec, hc, -⟩ := stage_of_start hstart
  exact ⟨s, t, c, f, hstart, hc, hrun, run_upToUndecodable hstart hc hrun undisturbed_readAndReturned⟩

def ExecutionEvent.line? : ExecutionEvent → Option String
  | .output _ _ line => some line
  | _ => none

/-- **A line that is a text may be hidden by one that is none.** The container writes both, exits with code zero, and nobody
interferes; the call says that all is well, and that there was one line. -/
theorem line_behind_hidden :
    ∃ (t : Session) (f : Feed), (Session.start listenedTo).run untilStarted = some t ∧
      Feed.run ⟨t, .start badLineBetween⟩ 0 readAndReturned = some f ∧ Undisturbed 0 readAndReturned ∧
      f.session.result? 0 = some (.ok ⟨["ok"], 1⟩) ∧ Text.bytesOf "tail" ∈ Pipe.segments (badLineBetween .stdout) ∧
      ∀ id, .output id .stdout "tail" ∉ (t.told (sessionActions readAndReturned)).map Prod.snd := by
  have hall : (((Session.start listenedTo).run untilStarted).any fun t =>
      (((t.told (sessionActions readAndReturned)).map Prod.snd).all fun e => e.line? != some "tail") &&
      (Feed.run ⟨t, .start badLineBetween⟩ 0 readAndReturned).any fun f =>
        f.session.result? 0 == some (.ok ⟨["ok"], 1⟩)) = true := by decide +kernel
  obtain ⟨t, ht, hboth⟩ := (Option.any_eq_true _ _).mp hall
  obtain ⟨htold, hfeed⟩ := Bool.and_eq_true_iff.mp hboth
  obtain ⟨f, hrun, hresult⟩ := (Option.any_eq_true _ _).mp hfeed
  refine ⟨t, f, ht, hrun, undisturbed_readAndReturned, beq_iff_eq.mp hresult, by decide, ?_⟩
  intro id hid
  have hother : (some "tail" != some "tail") = true := List.all_eq_true.mp htold _ hid
  exact absurd hother (by decide)

end LintPlan
