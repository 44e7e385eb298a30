import LintPlan.Execution.Call

/-!
# The transitions of a call

`Call.step` is one table over stages and moves, spread over the ways in, through and out. `Transition` is the same table
as a relation with one constructor for each entry that leads somewhere, guards included, so that a fact about steps is
proved by going through constructors instead of unfolding the table:

* **`transition_of_step`** — every step is a transition. `Stage.watching` is resolved here: whether the watch is over is
  part of which transition it is.
* **`prepare_cases`** — what preparing a repository can do, once and for all.
* **`prepare_frame`** — what it leaves alone: everything but the files.
-/

namespace LintPlan

/-! ## §1 — what a step can do

All that a call can do, as a relation with a constructor for each row of the table. Proofs about steps are by cases of this
relation. -/

/-- What a move can do to a runner and to the stage of call number `n`, whose execution has the identifier `id` and whose
request is `q`. -/
inductive Transition (id : String) (q : RunRequest) (n : Nat) (r : Runner) :
    Stage → Move → Runner → Stage → Prop where
  -- on the way in
  | turnedAway (hbusy : r.busy = true) :
      Transition id q n r .arrived .goOn r (.returned (.error .busy))
  | letIn (hidle : r.busy = false) :
      Transition id q n r .arrived .goOn { r with busy := true } .admitted
  | openSlot : Transition id q n r .admitted .goOn (r.openSlot n) .checking
  | answerYes {seconds : Nat} (hintime : seconds ≤ q.checkBudget) :
      Transition id q n r .checking (.answer seconds true) r .available
  | answerNo {seconds : Nat} {available : Bool} (hno : available = false ∨ q.checkBudget < seconds) :
      Transition id q n r .checking (.answer seconds available) r (.leaving (.error (.unavailable r.setup.engine)))
  | cancelCheck (hcancel : r.isCancelled n = true) :
      Transition id q n r .checking .noticeCancel (r.enter id .cancelled) (.leaving (.error .cancelled))
  | beginPreparing : Transition id q n r .available .goOn (r.enter id .preparing) .preparing
  | prepare {r' : Runner} {spec : RunSpec} (hprepare : r.prepare id q = (r', .ok spec)) :
      Transition id q n r .preparing .goOn (r'.note (.described spec)) (.prepared spec)
  | prepareFails {r' : Runner} {fault : ExecutionFault} (hprepare : r.prepare id q = (r', .error fault)) :
      Transition id q n r .preparing .goOn r' (.ended (.error fault))
  | cancelPrepared {spec : RunSpec} (hcancel : r.isCancelled n = true) :
      Transition id q n r (.prepared spec) .goOn r (.ended (.error .cancelled))
  | proceed {spec : RunSpec} (hkeep : r.isCancelled n = false) :
      Transition id q n r (.prepared spec) .goOn r (.starting spec)
  | start {spec : RunSpec} :
      Transition id q n r (.starting spec) (.start none) ((r.note (.started spec)).enter id .running)
        (.running ⟨spec, none⟩ (.start q.configuration.linters.enabledNames))
  | startFails {spec : RunSpec} {fault : OsFault} :
      Transition id q n r (.starting spec) (.start (some fault)) r (.ended (.error (.spawn r.setup.engine fault)))
  -- with a container
  | exit {spec : RunSpec} {w : Watch} {code : ExitCode} :
      Transition id q n r (.running ⟨spec, none⟩ w) (.exit code) r (.running ⟨spec, some code⟩ w)
  | line {k : Container} {w : Watch} {stream : OutputStream} {text : String} (hopen : w.pipesOpen = true) :
      Transition id q n r (.running k w) (.line stream text) (r.emitAll (w.eventsOf id stream text))
        (.running k (w.add stream text))
  | pipesClose {k : Container} {w : Watch} (hopen : w.pipesOpen = true) (hexit : w.exit = none) :
      Transition id q n r (.running k w) .pipesClose r (.running k { w with pipesOpen := false })
  | pipesCloseLast {k : Container} {w : Watch} {code : ExitCode} (hopen : w.pipesOpen = true)
      (hexit : w.exit = some code) :
      Transition id q n r (.running k w) .pipesClose r (.ended (w.outcome code))
  | noticeExit {spec : RunSpec} {w : Watch} {code : ExitCode} (hopen : w.pipesOpen = true) (hexit : w.exit = none) :
      Transition id q n r (.running ⟨spec, some code⟩ w) .noticeExit (r.note .waitedFor)
        (.running ⟨spec, some code⟩ { w with exit := some code })
  | noticeExitLast {spec : RunSpec} {w : Watch} {code : ExitCode} (hclosed : w.pipesOpen = false)
      (hexit : w.exit = none) :
      Transition id q n r (.running ⟨spec, some code⟩ w) .noticeExit (r.note .waitedFor) (.ended (w.outcome code))
  | waitFails {k : Container} {w : Watch} {fault : OsFault} (hexit : w.exit = none) :
      Transition id q n r (.running k w) (.waitFails fault) r (.ended (.error (.spawn r.setup.engine fault)))
  | timeUp {k : Container} {w : Watch} :
      Transition id q n r (.running k w) .timeUp r (.stopping k (.timedOut q.budget))
  | noticeCancel {k : Container} {w : Watch} (hcancel : r.isCancelled n = true) :
      Transition id q n r (.running k w) .noticeCancel r (.stopping k .cancelled)
  -- stopping the container
  | exitStopping {spec : RunSpec} {why : ExecutionFault} {code : ExitCode} :
      Transition id q n r (.stopping ⟨spec, none⟩ why) (.exit code) r (.stopping ⟨spec, some code⟩ why)
  | stop {k : Container} {why : ExecutionFault} {attempt : StopAttempt} :
      Transition id q n r (.stopping k why) (.stop attempt) (r.note (.toldToStop attempt)) (.waiting k why)
  | exitWaiting {spec : RunSpec} {why : ExecutionFault} {code : ExitCode} :
      Transition id q n r (.waiting ⟨spec, none⟩ why) (.exit code) r (.waiting ⟨spec, some code⟩ why)
  | stopped {spec : RunSpec} {why : ExecutionFault} {code : ExitCode} :
      Transition id q n r (.waiting ⟨spec, some code⟩ why) .noticeExit (r.note .waitedFor) (.ended (.error why))
  | graceOver {spec : RunSpec} {why : ExecutionFault} :
      Transition id q n r (.waiting ⟨spec, none⟩ why) .graceOver (r.note .outlastedGrace) (.killing ⟨spec, none⟩ why)
  | kill {k : Container} {why : ExecutionFault} :
      Transition id q n r (.killing k why) .goOn ((r.note .killed).note .waitedFor) (.ended (.error why))
  -- on the way out
  | clearSlot {outcome : RunOutcome} : Transition id q n r (.ended outcome) .goOn r.clearSlot (.reporting outcome)
  | report {outcome : RunOutcome} :
      Transition id q n r (.reporting outcome) .goOn (r.enter id outcome.state) (.leaving outcome)
  | stopListening {outcome : RunOutcome} :
      Transition id q n r (.leaving outcome) .goOn (r.stopListening n) (.deaf outcome)
  | release {outcome : RunOutcome} : Transition id q n r (.deaf outcome) .goOn r.clearSlot (.released outcome)
  | ret {outcome : RunOutcome} :
      Transition id q n r (.released outcome) .goOn { r with busy := false } (.returned outcome)

/-! ## §2 — every step is a transition

One lemma for each of the four parts of the table. -/

variable {c : Call} {n : Nat} {r r' : Runner} {m : Move} {st : Stage}

/-- **Going on by itself, on the way in.** -/
theorem transition_of_goOn (h : c.approach n r .goOn = some (r', st)) :
    Transition c.id c.request n r c.stage .goOn r' st := by
  obtain ⟨id, q, stage⟩ := c
  cases stage <;> simp only [Call.approach, Option.some.injEq, reduceCtorEq, Prod.mk.injEq] at h
  -- going on is possible in five stages
  case arrived =>
    cases hb : r.busy <;> rw [hb] at h <;> cases h
    · exact .letIn hb
    · exact .turnedAway hb
  case admitted =>
    obtain ⟨rfl, rfl⟩ := h
    exact .openSlot
  case available =>
    obtain ⟨rfl, rfl⟩ := h
    exact .beginPreparing
  case preparing =>
    cases hp : r.prepare id q with
    | mk r₁ outcome =>
      rw [hp] at h
      cases outcome with
      | error fault =>
        cases h
        exact .prepareFails hp
      | ok spec =>
        cases h
        exact .prepare hp
  case prepared spec =>
    obtain ⟨rfl, rfl⟩ := h
    cases hc : r.isCancelled n
    · exact .proceed hc
    · exact .cancelPrepared hc

/-- **On the way in.** -/
theorem transition_of_approach (h : c.approach n r m = some (r', st)) : Transition c.id c.request n r c.stage m r' st := by
  cases m
  case goOn => exact transition_of_goOn h
  case answer seconds available =>
    obtain ⟨id, q, stage⟩ := c
    cases stage <;> simp only [Call.approach, Option.some.injEq, reduceCtorEq, Prod.mk.injEq] at h
    case checking =>
      obtain ⟨rfl, rfl⟩ := h
      cases available with
      | false => exact .answerNo (.inl rfl)
      | true =>
        by_cases hs : seconds ≤ q.checkBudget
        · simp only [hs]
          exact .answerYes hs
        · simp only [hs]
          exact .answerNo (.inr (Nat.lt_of_not_le hs))
  case noticeCancel =>
    obtain ⟨id, q, stage⟩ := c
    cases stage <;> simp only [Call.approach, reduceCtorEq] at h
    case checking =>
      cases hc : r.isCancelled n <;> rw [hc] at h <;> cases h
      exact .cancelCheck hc
  case start fault =>
    obtain ⟨id, q, stage⟩ := c
    cases stage <;> simp only [Call.approach, reduceCtorEq] at h
    case starting spec =>
      cases fault <;> cases h
      · exact .start
      · exact .startFails
  all_goals simp only [Call.approach, reduceCtorEq] at h

/-- A watch that is not over goes on. -/
theorem watching_of_none {k : Container} {w : Watch} (h : w.outcome? = none) : Stage.watching k w = .running k w := by
  rw [Stage.watching, h]

/-- A watch that is over ends the call. -/
theorem watching_of_some {k : Container} {w : Watch} {outcome : RunOutcome} (h : w.outcome? = some outcome) :
    Stage.watching k w = .ended outcome := by
  rw [Stage.watching, h]

/-- **With a container.** A watch that is over ends the call at once, so the two moves that can end it have two
transitions each. -/
theorem transition_of_attend {k : Container} {w : Watch} (h : c.attend n r k w m = some (r', st)) :
    Transition c.id c.request n r (.running k w) m r' st := by
  cases m <;> simp only [Call.attend, reduceCtorEq, Option.ite_none_right_eq_some, Option.some.injEq,
    Prod.mk.injEq] at h
  case exit code =>
    obtain ⟨spec, exit⟩ := k
    obtain ⟨hnone, rfl, rfl⟩ := h
    cases exit with
    | none => exact .exit
    | some _ => cases hnone
  case line stream text =>
    obtain ⟨hopen, rfl, rfl⟩ := h
    exact .line hopen
  case pipesClose =>
    obtain ⟨hopen, rfl, rfl⟩ := h
    -- the run is over when both pipes are closed and the exit was noticed, whichever comes last
    obtain hexit | ⟨code, hexit⟩ := w.exit.eq_none_or_eq_some
    · have hgoing : Watch.outcome? { w with pipesOpen := false } = none := by simp only [Watch.outcome?, hexit]
      rw [watching_of_none hgoing]
      exact .pipesClose hopen hexit
    · have hover : Watch.outcome? { w with pipesOpen := false } = some (w.outcome code) := by
        simp only [Watch.outcome?, hexit]
        rfl
      rw [watching_of_some hover]
      exact .pipesCloseLast hopen hexit
  case noticeExit =>
    obtain ⟨spec, exit⟩ := k
    obtain ⟨hboth, rfl, rfl⟩ := h
    simp only [Bool.and_eq_true, Option.isNone_iff_eq_none] at hboth
    obtain ⟨hexit, hsome⟩ := hboth
    cases exit with
    | none => cases hsome
    | some code =>
      rcases Bool.eq_false_or_eq_true w.pipesOpen with hopen | hopen
      · have hgoing : Watch.outcome? { w with exit := some code } = none := by simp only [Watch.outcome?, hopen]
        rw [watching_of_none hgoing]
        exact .noticeExit hopen hexit
      · have hover : Watch.outcome? { w with exit := some code } = some (w.outcome code) := by
          simp only [Watch.outcome?, hopen]
          rfl
        rw [watching_of_some hover]
        exact .noticeExitLast hopen hexit
  case waitFails fault =>
    obtain ⟨hnone, rfl, rfl⟩ := h
    exact .waitFails (Option.isNone_iff_eq_none.mp hnone)
  case timeUp =>
    obtain ⟨rfl, rfl⟩ := h
    exact .timeUp
  case noticeCancel =>
    obtain ⟨hcancel, rfl, rfl⟩ := h
    exact .noticeCancel hcancel

/-- **Stopping the container.** -/
theorem transition_of_subdue (h : c.subdue r m = some (r', st)) : Transition c.id c.request n r c.stage m r' st := by
  obtain ⟨id, q, stage⟩ := c
  cases stage
  case stopping k why =>
    obtain ⟨spec, exit⟩ := k
    cases m <;> simp only [Call.subdue, reduceCtorEq, Option.some.injEq, Prod.mk.injEq] at h
    case exit code =>
      cases exit <;> cases h
      exact .exitStopping
    case stop attempt =>
      obtain ⟨rfl, rfl⟩ := h
      exact .stop
  case waiting k why =>
    obtain ⟨spec, exit⟩ := k
    cases m <;> simp only [Call.subdue, reduceCtorEq] at h
    case exit code =>
      cases exit <;> cases h
      exact .exitWaiting
    case noticeExit =>
      cases exit <;> cases h
      exact .stopped
    case graceOver =>
      cases exit <;> cases h
      exact .graceOver
  case killing k why =>
    cases m <;> simp only [Call.subdue, reduceCtorEq, Option.some.injEq, Prod.mk.injEq] at h
    case goOn =>
      obtain ⟨rfl, rfl⟩ := h
      exact .kill
  all_goals cases m <;> cases h

/-- **On the way out.** -/
theorem transition_of_depart (h : c.depart n r = some (r', st)) :
    Transition c.id c.request n r c.stage .goOn r' st := by
  obtain ⟨id, q, stage⟩ := c
  cases stage <;> cases h
  case ended => exact .clearSlot
  case reporting => exact .report
  case leaving => exact .stopListening
  case deaf => exact .release
  case released => exact .ret

/-- **Every step is a transition.** -/
theorem transition_of_step (h : c.step n r m = some (r', st)) : Transition c.id c.request n r c.stage m r' st := by
  have hgoOn : ∀ {x : Option (Runner × Stage)}, (if m = .goOn then x else none) = some (r', st) →
      m = .goOn ∧ x = some (r', st) := by
    intro x hx
    rwa [Option.ite_none_right_eq_some] at hx
  cases hs : c.stage <;> simp only [Call.step, hs] at h
  case running k w => exact transition_of_attend h
  case stopping | waiting | killing => exact hs ▸ transition_of_subdue h
  case ended | reporting | leaving | deaf | released =>
    obtain ⟨rfl, hd⟩ := hgoOn h
    exact hs ▸ transition_of_depart hd
  case returned => cases h
  all_goals exact hs ▸ transition_of_approach h

/-! ## §3 — frames

What preparing may change. -/

/-- **What preparing a repository can do.** Either the repository is not found, and nothing is done, or the plan is written,
if the runner is set up to do so, and what comes of that decides. -/
theorem prepare_cases (r : Runner) (id : String) (q : RunRequest) :
    (∃ fault, r.files.resolve r.setup.here q.repository = .error fault ∧
      r.prepare id q = (r, .error (.prepare q.repository fault))) ∨
    ∃ place node files outcome, r.files.resolve r.setup.here q.repository = .ok (place, node) ∧
      (if r.setup.writesPlan then
        (FileTree.replaceFile [] (Runner.planPath (Path.absolute place)) (PlanText.render q.configuration)).on r.files
      else (r.files, .ok ())) = (files, outcome) ∧
      r.prepare id q = ({ r with files := files }, match outcome with
        | .error fault => .error (.prepare (Runner.planPath (Path.absolute place)) fault)
        | .ok _ => .ok (.ofConfiguration q.configuration (Path.absolute place) r.setup.image (Runner.containerName id))) := by
  unfold Runner.prepare
  cases hplace : r.files.resolve r.setup.here q.repository with
  | error fault => exact .inl ⟨fault, rfl, rfl⟩
  | ok found =>
    refine .inr ⟨found.1, found.2, ?_⟩
    dsimp only
    unfold Runner.writePlan
    by_cases hwrites : r.setup.writesPlan = true
    · rw [if_pos hwrites, if_pos hwrites]
      dsimp only
      -- how the file is written does not matter here
      generalize (FileTree.replaceFile [] (Runner.planPath (Path.absolute found.1))
        (PlanText.render q.configuration)).on r.files = written
      obtain ⟨files, outcome⟩ := written
      refine ⟨files, outcome, rfl, rfl, ?_⟩
      cases outcome <;> rfl
    · rw [if_neg hwrites, if_neg hwrites]
      exact ⟨r.files, .ok (), rfl, rfl, rfl⟩

/-- **Preparing a repository changes the files only.** -/
theorem prepare_frame {id : String} {q : RunRequest} {outcome : Except ExecutionFault RunSpec}
    (h : r.prepare id q = (r', outcome)) : ∃ files, r' = { r with files := files } := by
  rcases prepare_cases r id q with ⟨fault, -, hran⟩ | ⟨place, node, files, written, -, -, hran⟩
  · rw [h] at hran
    exact ⟨r.files, congrArg Prod.fst hran⟩
  · rw [h] at hran
    exact ⟨files, congrArg Prod.fst hran⟩

end LintPlan
