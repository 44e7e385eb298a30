import LintPlan.Proofs.Execution.EventBlocks
import LintPlan.Proofs.Execution.Launches

/-!
# What becomes of a request to cancel

A request that is accepted stays in the slot until the outcome of the call is settled. It is noticed in time if it comes
before the container is started. While the container runs, it is one of several things that the call may notice next, and
what is noticed first counts; and for some steps after that a request is still accepted, though nobody looks for it any more
(**`late_request_ignored`**). So what decides is the notice, not the request.

* **`move_noticeCancel`** — a call that watches for requests can notice one.
* **`run_cancelling`** — what becomes of requests in every history.
-/

namespace LintPlan

variable {r : Runner} {actions : List Action} {s : Session} {n : Nat} {c : Call}

/-! ## §1 — noticing

A call that may notice a request can do so. -/

/-- A call that waits for the engine, or watches its container, can notice a request. -/
theorem move_noticeCancel (hc : s.calls[n]? = some c) (hcancelled : s.runner.isCancelled n = true)
    (hwatches : c.stage = .checking ∨ ∃ k w, c.stage = .running k w) : ∃ s', s.move n .noticeCancel = some s' := by
  have hstep : ∃ next, c.step n s.runner .noticeCancel = some next := by
    obtain ⟨id, q, stage⟩ := c
    rcases hwatches with hstage | ⟨k, w, hstage⟩
    · obtain rfl : stage = .checking := hstage
      exact ⟨_, if_pos hcancelled⟩
    · obtain rfl : stage = .running k w := hstage
      exact ⟨_, if_pos hcancelled⟩
  obtain ⟨next, hnext⟩ := hstep
  unfold Session.move
  rw [hc]
  dsimp only
  rw [hnext]
  exact ⟨_, rfl⟩

/-! ## §2 — what decides

A cancelled call is one that noticed, and noticing needs a request before it. -/

/-- What became of requests to cancel call number `n`, when the history `actions` of the runner `r` led to the session `s`. -/
structure Cancelling (r : Runner) (actions : List Action) (s : Session) (n : Nat) : Prop where
  /-- The call is cancelled exactly if it noticed that it was to be cancelled. -/
  decided : ∀ {outcome : RunOutcome}, s.result? n = some outcome → (outcome = .error .cancelled ↔ Noticed r actions n)
  /-- It notices nothing that it was not asked. -/
  asked : Noticed r actions n → Asked r actions n
  /-- As long as the outcome is not settled, a request waits for the call. -/
  waits : ∀ {c : Call}, Asked r actions n → s.calls[n]? = some c → c.stage.verdict? = none →
    s.runner.isCancelled n = true
  /-- While it waits for the engine, and while it watches its container, it can notice the request. -/
  noticeable : ∀ {c : Call}, Asked r actions n → s.calls[n]? = some c →
    (c.stage = .checking ∨ ∃ k w, c.stage = .running k w) → ∃ s', s.move n .noticeCancel = some s'
  /-- If it was asked before its last look for requests, it is not started; what may come of it instead is that the engine
  is not available, or that the repository cannot be prepared. -/
  inTime : AskedInTime r actions n →
    ¬ Started r actions n ∧ ∀ {outcome : RunOutcome}, s.result? n = some outcome → outcome.isHeldBack = true

/-- **What becomes of requests to cancel.** -/
theorem run_cancelling (setup : RunnerSetup) (files : FileTree) (bus : EventBus) (actions : List Action) (s : Session)
    (n : Nat) (hrun : (Session.start { Runner.idle setup files with bus := bus }).run actions = some s) :
    Cancelling { Runner.idle setup files with bus := bus } actions s n := by
  refine ⟨?_, noticed_asked rfl rfl, isCancelled_of_asked rfl rfl hrun, ?_, ?_⟩
  · intro outcome hresult
    obtain ⟨c, hc, hreturned⟩ := stage_of_result? hresult
    -- the verdict stands from the moment of noticing on
    have hverdict : c.stage.verdict? = some outcome := by
      rw [hreturned]
      rfl
    rw [noticed_run hrun]
    constructor
    · rintro rfl
      exact ⟨c, hc, hverdict⟩
    · rintro ⟨x, hx, hcancelled⟩
      obtain rfl : c = x := Option.some.inj (hc.symm.trans hx)
      exact Option.some.inj (hverdict.symm.trans hcancelled)
  · intro c hasked hc hwatches
    refine move_noticeCancel hc (isCancelled_of_asked rfl rfl hrun hasked hc ?_) hwatches
    rcases hwatches with hstage | ⟨k, w, hstage⟩ <;> rw [hstage] <;> rfl
  · intro hasked
    refine ⟨not_started_of_askedInTime rfl rfl hasked, ?_⟩
    intro outcome hresult
    obtain ⟨c, hc, hreturned⟩ := stage_of_result? hresult
    obtain ⟨x, hx, hheld⟩ := heldBack_run rfl rfl hrun hasked
    obtain rfl : c = x := Option.some.inj (hc.symm.trans hx)
    rw [hreturned] at hheld
    rcases hheld with hunchecked | ⟨outcome', hverdict, hheld⟩
    · cases hunchecked
    · rwa [Option.some.inj hverdict]

/-- A call is asked to cancel while it waits for the engine, and looks for requests when everything is prepared. -/
def requestInTime : List Action :=
  [.call "only" overlappingCalls.request, .move 0 .goOn, .move 0 .goOn, .cancel, .move 0 (.answer 1 true), .move 0 .goOn,
   .move 0 .goOn, .move 0 .goOn, .move 0 .goOn, .move 0 .goOn, .move 0 .goOn, .move 0 .goOn, .move 0 .goOn]

/-- A request in time. -/
theorem run_cancelling_requestInTime :
    ∃ s, (Session.start listenedTo).run requestInTime = some s ∧ s.result? 0 = some (.error .cancelled) ∧
      Cancelling listenedTo requestInTime s 0 := by
  have hcancelled : (((Session.start listenedTo).run requestInTime).any fun s =>
      s.result? 0 == some (.error .cancelled)) = true := by decide
  obtain ⟨s, hrun, hresult⟩ := (Option.any_eq_true _ _).mp hcancelled
  exact ⟨s, hrun, beq_iff_eq.mp hresult, run_cancelling _ _ _ requestInTime s 0 hrun⟩

/-! ## §3 — requests that are ignored

A request that comes once the call is being stopped for another reason. -/

/-- The time of a call that watches its container is up, and before the container is told to stop, the call is asked to
cancel. -/
def lateRequest : List Action :=
  upToRequest ++ .cancel ::
    [.move 0 (.stop (.command true)), .move 0 (.exit none), .move 0 .noticeExit, .move 0 .goOn, .move 0 .goOn,
     .move 0 .goOn, .move 0 .goOn, .move 0 .goOn]
where
  /-- A request for the root directory that may take no time at all. -/
  request : RunRequest :=
    ⟨{ Configuration.standard with
        performance := { Configuration.standard.performance with maxExecutionTime := 0 } }, "/"⟩
  /-- What happens before the call is asked. -/
  upToRequest : List Action :=
    [.call "only" request, .move 0 .goOn, .move 0 .goOn, .move 0 (.answer 0 true), .move 0 .goOn, .move 0 .goOn,
     .move 0 .goOn, .move 0 (.start none), .move 0 .timeUp]

/-- **A request may be accepted and ignored.** The call is in and listens, so somebody who asks is told that the request is
accepted; but the time was up before, and the call says so. -/
theorem late_request_ignored :
    ∃ s, (Session.start listenedTo).run lateRequest = some s ∧ Asked listenedTo lateRequest 0 ∧
      s.result? 0 = some (.error (.timedOut 0)) := by
  have hasked : (((Session.start listenedTo).run lateRequest.upToRequest).any fun s =>
      s.runner.acceptsCancel && s.calls[0]?.any fun c => c.stage.isLive) = true := by decide +kernel
  have htimedOut : (((Session.start listenedTo).run lateRequest).any fun s =>
      s.result? 0 == some (.error (.timedOut 0))) = true := by decide
  obtain ⟨s, hrun, hresult⟩ := (Option.any_eq_true _ _).mp htimedOut
  obtain ⟨t, ht, hboth⟩ := (Option.any_eq_true _ _).mp hasked
  obtain ⟨haccepts, hlive⟩ := Bool.and_eq_true_iff.mp hboth
  obtain ⟨c, hc, hin⟩ := (Option.any_eq_true _ _).mp hlive
  refine ⟨s, hrun, ?_, beq_iff_eq.mp hresult⟩
  exact ⟨lateRequest.upToRequest, t, _, ⟨⟨_, by rw [List.append_assoc]; rfl⟩, ht, rfl⟩, haccepts, c, hc, hin⟩

end LintPlan
