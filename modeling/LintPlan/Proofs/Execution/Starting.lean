import LintPlan.Proofs.Execution.EventBlocks
import LintPlan.Proofs.Execution.Launches
import LintPlan.Proofs.Execution.Preparing

/-!
# What comes before the start of a container

Before a call starts its container, the engine has said in time that it is available, then the repository was prepared, and
then, without a request to cancel so far, the call has looked for requests for the last time. Each of these is a moment of the
history, in the part before the next one.

* **`Answered`**, **`Prepared`**, **`Looked`** — the three moments, each with the ones before it.
* **`due_run`** — a call at a stage has had the moments that are due before it.
* **`run_startsInOrder`** — no container is started without them, and which outcomes tell that none was started.
-/

namespace LintPlan

variable {r : Runner} {actions before more : List Action} {s s' : Session} {a : Action} {n : Nat} {c : Call}
  {spec : RunSpec} {files files' : FileTree}

/-! ## §1 — the moments

What has to have happened before a container starts. -/

/-- In a history, the engine has said in the time for it that it is available for call number `n`. -/
def Answered (r : Runner) (actions : List Action) (n : Nat) (q : RunRequest) : Prop :=
  ∃ before s s' seconds, Moment r actions before s (.move n (.answer seconds true)) s' ∧ seconds ≤ q.checkBudget

/-- In a history, call number `n` has prepared its repository when the engine had answered, as the runner was set up at the
start. The engine is to run `spec`, and `files` are the files since. -/
def Prepared (r : Runner) (actions : List Action) (n : Nat) (c : Call) (spec : RunSpec) (files : FileTree) : Prop :=
  ∃ before s s' place, Moment r actions before s (.move n .goOn) s' ∧ s.calls[n]? = some { c with stage := .preparing } ∧
    Answered r before n c.request ∧ s.runner.setup = r.setup ∧ Preparation s.runner c.id c.request place spec files

/-- In a history, call number `n` has looked for requests to cancel when everything was prepared, and no request for it had
been accepted. -/
def Looked (r : Runner) (actions : List Action) (n : Nat) (c : Call) (spec : RunSpec) (files : FileTree) : Prop :=
  ∃ before s s', Moment r actions before s (.move n .goOn) s' ∧ s.calls[n]? = some { c with stage := .prepared spec } ∧
    ¬ Asked r before n ∧ Prepared r before n c spec files

theorem Answered.mono {q : RunRequest} (h : Answered r actions n q) (hpart : actions <+: more) : Answered r more n q := by
  obtain ⟨before, s, s', seconds, hmoment, hintime⟩ := h
  exact ⟨before, s, s', seconds, hmoment.mono hpart, hintime⟩

theorem Prepared.mono (h : Prepared r actions n c spec files) (hpart : actions <+: more) :
    Prepared r more n c spec files := by
  obtain ⟨before, s, s', place, hmoment, hrest⟩ := h
  exact ⟨before, s, s', place, hmoment.mono hpart, hrest⟩

theorem Looked.mono (h : Looked r actions n c spec files) (hpart : actions <+: more) : Looked r more n c spec files := by
  obtain ⟨before, s, s', hmoment, hrest⟩ := h
  exact ⟨before, s, s', hmoment.mono hpart, hrest⟩

/-! ## §2 — what is due

By stage, which of these moments lie behind a call. A step leads from one to the next. -/

/-- What has happened in a history when a call is at a stage on its way to the container. -/
def Stage.Due (r : Runner) (actions : List Action) (n : Nat) (c : Call) (files : FileTree) : Stage → Prop
  | .available | .preparing => Answered r actions n c.request
  | .prepared spec => Prepared r actions n c spec files
  | .starting spec => Looked r actions n c spec files
  | _ => True

/-- What is due stays in the history, and so do the files while the call is in. -/
theorem Stage.Due.mono {st : Stage} (h : st.Due r actions n c files) (hpart : actions <+: more)
    (hfiles : st.isLive = true → files' = files) : st.Due r more n c files' := by
  cases st
  case available | preparing => exact Answered.mono h hpart
  case prepared spec => exact hfiles rfl ▸ Prepared.mono h hpart
  case starting spec => exact hfiles rfl ▸ Looked.mono h hpart
  all_goals trivial

/-- Only preparing a repository changes files. -/
theorem Transition.files_eq {id : String} {q : RunRequest} {r r' : Runner} {st st' : Stage} {m : Move}
    (h : Transition id q n r st m r' st') (hst : st ≠ .preparing) : r'.files = r.files := by
  cases h
  case prepare | prepareFails => exact absurd rfl hst
  all_goals rfl

/-- While a call is in, nobody else changes files. -/
theorem files_act_other {flight : Option Nat} (hflight : Flight s flight) (hc : s.calls[n]? = some c)
    (hlive : c.stage.isLive = true) (hother : ∀ m, a ≠ .move n m) (h : s.act a = some s') :
    s'.runner.files = s.runner.files := by
  rcases act_cases h with ⟨id, q, -, rfl⟩ | ⟨-, rfl⟩ | ⟨k, d, m, r', st, rfl, hd, ht, rfl⟩
  · rfl
  · obtain ⟨slot, hslot⟩ := cancel_frame s.runner
    show s.runner.cancel.files = s.runner.files
    rw [hslot]
  · refine ht.files_eq ?_
    intro hpreparing
    -- the call that prepares is in too, so it is the same one
    have hn := (hflight.live hc).mp hlive
    have hk := (hflight.live hd).mp (by rw [hpreparing]; rfl)
    obtain rfl : n = k := Option.some.inj (hn.symm.trans hk)
    exact hother m rfl

/-- No step changes the setup. -/
theorem Transition.setup_eq {id : String} {q : RunRequest} {r r' : Runner} {st st' : Stage} {m : Move}
    (h : Transition id q n r st m r' st') : r'.setup = r.setup := by
  cases h
  case prepare hprepare | prepareFails hprepare =>
    obtain ⟨files, rfl⟩ := prepare_frame hprepare
    rfl
  all_goals rfl

/-- So no history does. -/
theorem setup_run (h : s.run actions = some s') : s'.runner.setup = s.runner.setup := by
  refine run_invariant (I := fun t => t.runner.setup = s.runner.setup) ?_ h rfl
  intro t a t' ht ha
  rcases act_cases ha with ⟨id, q, -, rfl⟩ | ⟨-, rfl⟩ | ⟨n, c, m, r', st, -, -, htransition, rfl⟩
  · exact ht
  · obtain ⟨slot, hslot⟩ := cancel_frame t.runner
    show t.runner.cancel.setup = s.runner.setup
    rw [hslot]
    exact ht
  · exact htransition.setup_eq.trans ht

/-- **The step lemma.** A step of a call makes the moment that is due at the next stage. -/
theorem Transition.due {r₀ r' : Runner} {st : Stage} {m : Move}
    (h : Transition c.id c.request n s.runner c.stage m r' st) (hc : s.calls[n]? = some c)
    (hmoment : Moment r₀ (before ++ [a]) before s a s') (ha : a = .move n m)
    (hsetup : s.runner.setup = r₀.setup)
    (hasked : Asked r₀ before n → c.stage.verdict? = none → s.runner.isCancelled n = true)
    (hdue : c.stage.Due r₀ before n c s.runner.files) : st.Due r₀ (before ++ [a]) n c r'.files := by
  subst ha
  have hpart : before <+: before ++ [.move n m] := List.prefix_append _ _
  generalize hstage : c.stage = stage at h hdue hasked
  have hcall : s.calls[n]? = some { c with stage := stage } := by rw [hc, ← hstage]
  cases h
  case answerYes seconds hintime => exact ⟨before, s, s', seconds, hmoment, hintime⟩
  case beginPreparing => exact Answered.mono hdue hpart
  case prepare r₁ spec hprepare =>
    obtain ⟨place, hprepared⟩ := prepare_ok hprepare
    exact ⟨before, s, s', place, hmoment, hcall, hdue, hsetup, hprepared⟩
  case proceed spec hkeep =>
    -- a request would still be in the slot, and the call would not go on
    refine ⟨before, s, s', hmoment, hcall, ?_, hdue⟩
    intro hrequest
    rw [hasked hrequest rfl] at hkeep
    cases hkeep
  all_goals trivial

/-- **A call at a stage has had what is due before it.** -/
theorem due_run (hbusy : r.busy = false) (hslot : r.slot = none) (h : (Session.start r).run actions = some s)
    (hc : s.calls[n]? = some c) : c.stage.Due r actions n c s.runner.files := by
  refine run_history (I := fun before s => ∀ c, s.calls[n]? = some c → c.stage.Due r before n c s.runner.files) ?_ ?_ h c hc
  · intro c hc
    cases hc
  · intro before s a s' hs ih ha x hx
    rcases call_before ha hx with ⟨-, harrived, -⟩ | ⟨c, hc⟩
    · rw [harrived]
      trivial
    · rcases call_after ha hc with ⟨hsame, hother⟩ | ⟨m, st, hmove, ht, hst⟩
      · obtain rfl : c = x := Option.some.inj (hsame.symm.trans hx)
        obtain ⟨flight, hflight⟩ := flight_run hbusy hs
        exact (ih c hc).mono (List.prefix_append _ _) fun hlive => files_act_other hflight hc hlive hother ha
      · obtain rfl := Option.some.inj (hst.symm.trans hx)
        exact ht.due hc (moment_last hs ha) hmove (setup_run hs)
          (fun hasked => isCancelled_of_asked hbusy hslot hs hasked hc) (ih c hc)

/-! ## §3 — what is started, and by whom

A start comes from a stage in which all of them do. -/

/-- Only a call that starts its container has anything started. -/
theorem Transition.acts_eq {id : String} {q : RunRequest} {r r' : Runner} {st st' : Stage} {m : Move}
    (h : Transition id q n r st m r' st') :
    ∃ acts, r'.acts = r.acts ++ acts ∧ ∀ spec, .started spec ∈ acts → st = .starting spec ∧ m = .start none := by
  have hnothing : ∃ acts, r.acts = r.acts ++ acts ∧ ∀ spec, ContainerAct.started spec ∈ acts →
      st = .starting spec ∧ m = .start none :=
    ⟨[], (List.append_nil _).symm, nofun⟩
  cases h
  case prepare hprepare =>
    obtain ⟨files, rfl⟩ := prepare_frame hprepare
    exact ⟨[_], rfl, by simp⟩
  case prepareFails hprepare =>
    obtain ⟨files, rfl⟩ := prepare_frame hprepare
    exact hnothing
  case start => exact ⟨[_], rfl, by simp⟩
  case noticeExit | noticeExitLast | stop | stopped | graceOver => exact ⟨[_], rfl, by simp⟩
  case kill => exact ⟨[.killed, .waitedFor], List.append_assoc .., by simp⟩
  all_goals exact hnothing

/-- **Whatever is started is started by a call that is at the stage for it.** -/
theorem starting_of_started {acts : List ContainerAct} (h : s.act a = some s') (hacts : s'.runner.acts = s.runner.acts ++ acts)
    (hspec : .started spec ∈ acts) : ∃ n c, a = .move n (.start none) ∧ s.calls[n]? = some c ∧ c.stage = .starting spec := by
  rcases act_cases h with ⟨id, q, -, rfl⟩ | ⟨-, rfl⟩ | ⟨n, c, m, r', st, rfl, hc, ht, rfl⟩
  · obtain rfl : acts = [] := List.self_eq_append_right.mp hacts
    cases hspec
  · obtain ⟨slot, hslot⟩ := cancel_frame s.runner
    have hsame : s.runner.cancel.acts = s.runner.acts := by rw [hslot]
    obtain rfl : acts = [] := List.self_eq_append_right.mp (hsame.symm.trans hacts)
    cases hspec
  · obtain ⟨new, hnew, hstarted⟩ := ht.acts_eq
    obtain rfl : new = acts := List.append_cancel_left (hnew.symm.trans hacts)
    obtain ⟨hstage, rfl⟩ := hstarted spec hspec
    exact ⟨n, c, rfl, hc, hstage⟩

/-! ## §4 — what outcomes tell

Conversely, an outcome tells how far the call came. -/

/-- How far a call has come at a moment, it has come at least when the history is over. -/
theorem Moment.reach_run {t t' : Session} (h : Moment r actions before t a t') (hrun : (Session.start r).run actions = some s)
    (hc : t.calls[n]? = some c) : ∃ c', s.calls[n]? = some c' ∧ c.stage.reach ≤ c'.stage.reach := by
  obtain ⟨rest, hrest⟩ := h.rest hrun
  have hwhole : t.run (a :: rest) = some s := by
    show (t.act a).bind (Session.run · rest) = some s
    rw [h.act]
    exact hrest
  exact LintPlan.reach_run hwhole hc

/-- A call has not come farther than its outcome tells. -/
theorem Moment.reach_le {outcome : RunOutcome} {t t' : Session} (h : Moment r actions before t a t')
    (hrun : (Session.start r).run actions = some s) (hc : t.calls[n]? = some c) (hresult : s.result? n = some outcome) :
    c.stage.reach ≤ outcome.reach := by
  obtain ⟨x, hx, hle⟩ := h.reach_run hrun hc
  obtain ⟨d, hd, hreturned⟩ := stage_of_result? hresult
  obtain rfl : x = d := Option.some.inj (hx.symm.trans hd)
  rw [hreturned] at hle
  exact hle

/-- **A call whose outcome tells so has not started its container.** -/
theorem not_started_of_reach {outcome : RunOutcome} (hrun : (Session.start r).run actions = some s)
    (hresult : s.result? n = some outcome) (hreach : outcome.reach < 6) : ¬ Started r actions n := by
  rintro ⟨before, t, t', hmoment⟩
  obtain ⟨c, -, spec, hc, hstarting, -⟩ := start_cases hmoment.act
  have hle := hmoment.reach_le hrun hc hresult
  rw [hstarting] at hle
  exact absurd hle (Nat.not_le.mpr hreach)

/-- A move that changes files is made by a call that prepares its repository. -/
theorem preparing_of_files {m : Move} (h : s.act (.move n m) = some s') (hfiles : s'.runner.files ≠ s.runner.files) :
    ∃ c, s.calls[n]? = some c ∧ c.stage = .preparing := by
  obtain ⟨c, r', st, hc, ht, hr, -⟩ := move_cases h
  refine ⟨c, hc, ?_⟩
  by_contra hstage
  exact hfiles (hr ▸ ht.files_eq hstage)

/-- **A call whose outcome tells so has not changed any files.** -/
theorem files_of_reach {outcome : RunOutcome} {m : Move} {t t' : Session} (hrun : (Session.start r).run actions = some s)
    (hresult : s.result? n = some outcome) (hreach : outcome.reach < 4) (h : Moment r actions before t (.move n m) t') :
    t'.runner.files = t.runner.files := by
  by_contra hfiles
  obtain ⟨c, hc, hpreparing⟩ := preparing_of_files h.act hfiles
  have hle := h.reach_le hrun hc hresult
  rw [hpreparing] at hle
  exact absurd hle (Nat.not_le.mpr hreach)

/-- In a history, call number `n` noticed during the check that it was to be cancelled. -/
def CancelledInCheck (r : Runner) (actions : List Action) (n : Nat) : Prop :=
  ∃ before s s' c, Moment r actions before s (.move n .noticeCancel) s' ∧ s.calls[n]? = some c ∧ c.stage = .checking

/-- **A call that was cancelled during the check has not changed any files.** -/
theorem files_of_cancelledInCheck {m : Move} {t t' : Session} (hcancelled : CancelledInCheck r actions n)
    (h : Moment r actions before t (.move n m) t') : t'.runner.files = t.runner.files := by
  by_contra hfiles
  obtain ⟨c, hc, hpreparing⟩ := preparing_of_files h.act hfiles
  obtain ⟨before', u, u', d, hnotice, hd, hchecking⟩ := hcancelled
  -- the check is over before the repository is prepared, and a call that is cancelled then does not come to preparing
  rcases h.order hnotice with ⟨rfl, -⟩ | hearlier | hlater
  · obtain rfl : c = d := Option.some.inj (hc.symm.trans hd)
    rw [hpreparing] at hchecking
    cases hchecking
  · obtain ⟨x, hx, hle⟩ := hearlier.reach_run hnotice.reached hc
    obtain rfl : d = x := Option.some.inj (hd.symm.trans hx)
    rw [hpreparing, hchecking] at hle
    exact absurd hle (by decide)
  · obtain ⟨d', r', st, hd', ht, -, hafter⟩ := move_cases hnotice.act
    obtain rfl : d = d' := Option.some.inj (hd.symm.trans hd')
    rw [hchecking] at ht
    have hreach : st.reach = 7 := by
      cases ht
      rfl
    obtain ⟨rest, hrest⟩ := hlater.rest h.reached
    obtain ⟨x, hx, hle⟩ := LintPlan.reach_run hrest hafter
    obtain rfl : c = x := Option.some.inj (hc.symm.trans hx)
    rw [hpreparing, show _ = 7 from hreach] at hle
    exact absurd hle (by decide)

/-! ## §5 — in order

The statements put together. -/

/-- In a session `s` that the history `actions` of the runner `r` led to, no container was started too early. -/
structure StartsInOrder (r : Runner) (actions : List Action) (s : Session) : Prop where
  /-- Whenever the process of a container was started, a call started it that had looked for requests in vain when its
  repository was prepared after the engine had answered in time; and the container is the one that was prepared. -/
  started : ∀ {before : List Action} {t t' : Session} {a : Action} {acts : List ContainerAct} {spec : RunSpec},
    Moment r actions before t a t' → t'.runner.acts = t.runner.acts ++ acts → .started spec ∈ acts →
      ∃ n c, a = .move n (.start none) ∧ t.calls[n]? = some c ∧ c.stage = .starting spec ∧
        Looked r before n c spec t.runner.files
  /-- A call starts nothing that is turned away, or finds no engine, or cannot prepare its repository, or was asked to cancel
  before it looked for requests for the last time. -/
  nothing : ∀ {n : Nat} {outcome : RunOutcome}, s.result? n = some outcome →
    (outcome = .error .busy ∨ (∃ engine, outcome = .error (.unavailable engine)) ∨
      (∃ path fault, outcome = .error (.prepare path fault)) ∨ outcome = .error .cancelled ∧ AskedInTime r actions n) →
      ¬ Started r actions n
  /-- A call changes no files that is turned away, or finds no engine, or is cancelled during the check. -/
  untouched : ∀ {n : Nat} {outcome : RunOutcome}, s.result? n = some outcome →
    (outcome = .error .busy ∨ (∃ engine, outcome = .error (.unavailable engine)) ∨ CancelledInCheck r actions n) →
      ∀ {before : List Action} {t t' : Session} {m : Move}, Moment r actions before t (.move n m) t' →
        t'.runner.files = t.runner.files

/-- **No container is started too early.** -/
theorem run_startsInOrder (setup : RunnerSetup) (files : FileTree) (bus : EventBus) (actions : List Action) (s : Session)
    (hrun : (Session.start { Runner.idle setup files with bus := bus }).run actions = some s) :
    StartsInOrder { Runner.idle setup files with bus := bus } actions s := by
  refine ⟨?_, ?_, ?_⟩
  · intro before t t' a acts spec hmoment hacts hspec
    obtain ⟨n, c, rfl, hc, hstarting⟩ := starting_of_started hmoment.act hacts hspec
    have hdue := due_run rfl rfl hmoment.reached hc
    rw [hstarting] at hdue
    exact ⟨n, c, rfl, hc, hstarting, hdue⟩
  · rintro n outcome hresult (rfl | ⟨engine, rfl⟩ | ⟨path, fault, rfl⟩ | ⟨-, hasked⟩)
    · exact not_started_of_reach hrun hresult (by decide)
    · exact not_started_of_reach hrun hresult (Nat.le_of_ble_eq_true rfl)
    · exact not_started_of_reach hrun hresult (Nat.le_of_ble_eq_true rfl)
    · exact not_started_of_askedInTime rfl rfl hasked
  · rintro n outcome hresult (rfl | ⟨engine, rfl⟩ | hcancelled) before t t' m hmoment
    · exact files_of_reach hrun hresult (by decide) hmoment
    · exact files_of_reach hrun hresult (Nat.le_of_ble_eq_true rfl) hmoment
    · exact files_of_cancelledInCheck hcancelled hmoment

/-- A call comes to its container. -/
def untilStarted : List Action :=
  [.call "only" overlappingCalls.request, .move 0 .goOn, .move 0 .goOn, .move 0 (.answer 1 true), .move 0 .goOn,
   .move 0 .goOn, .move 0 .goOn, .move 0 (.start none)]

theorem start_of_untilStarted {t : Session} (h : (Session.start r).run untilStarted = some t) :
    ∃ s : Session, s.act (.move 0 (.start none)) = some t := by
  have hsplit : untilStarted = untilStarted.dropLast ++ [.move 0 (.start none)] := rfl
  rw [hsplit] at h
  obtain ⟨s, -, hstart⟩ := run_concat.mp h
  exact ⟨s, hstart⟩

/-- A runner that writes plans and that nobody has called. -/
def planWriter (files : FileTree) : Runner :=
  { Runner.idle ⟨"docker", "image", true, []⟩ files with bus := EventBus.empty.subscribe }

/-- Is a container started by an act? -/
def ContainerAct.starts : ContainerAct → Bool
  | .started _ => true
  | _ => false

/-- A container that is started when its plan is written. -/
theorem run_startsInOrder_untilStarted :
    ∃ s, (Session.start (planWriter .empty)).run untilStarted = some s ∧ s.runner.acts.any ContainerAct.starts = true ∧
      StartsInOrder (planWriter .empty) untilStarted s := by
  have hstarted : (((Session.start (planWriter .empty)).run untilStarted).any fun s =>
      s.runner.acts.any ContainerAct.starts) = true := by decide +kernel
  obtain ⟨s, hrun, hacts⟩ := (Option.any_eq_true _ _).mp hstarted
  exact ⟨s, hrun, hacts, run_startsInOrder _ _ _ untilStarted s hrun⟩

/-! ## §6 — links in the way

Without the condition on links the container may start without a plan. -/

/-- A repository in which the temporary file is a link to the file of the plan. -/
def linkedRepository : FileTree :=
  (FileTree.empty.put [".lintscope"] .directory).put [".lintscope", ".lint.env.tmp"] (.link "lint.env")

/-- **With a link in the way a container may be started without its plan.** The plan is written through the link, and then the
link takes the place of the plan, so that it leads to itself. -/
theorem started_without_plan :
    ∃ s, (Session.start (planWriter linkedRepository)).run untilStarted = some s ∧
      s.runner.acts.any ContainerAct.starts = true ∧
      s.runner.files.readText [] (Runner.planPath "/") = .error .tooManyLinks := by
  have hboth : (((Session.start (planWriter linkedRepository)).run untilStarted).any fun s =>
      s.runner.acts.any ContainerAct.starts &&
        decide (s.runner.files.readText [] (Runner.planPath "/") = .error .tooManyLinks)) = true := by decide +kernel
  obtain ⟨s, hrun, hs⟩ := (Option.any_eq_true _ _).mp hboth
  obtain ⟨hacts, hread⟩ := Bool.and_eq_true_iff.mp hs
  exact ⟨s, hrun, hacts, of_decide_eq_true hread⟩

end LintPlan
