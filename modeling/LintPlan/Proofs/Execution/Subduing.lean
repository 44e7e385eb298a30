import LintPlan.Execution.Clock
import LintPlan.Proofs.Execution.Attending
import LintPlan.Proofs.Execution.Starting

/-!
# Stopping a container

A call whose time is up, or that is cancelled, stops its container before it returns. What happens to the container from its
start on, with the exit of its process, is one of a few traces:

* **`Subdued`** — these traces: one attempt to stop it, and either it exits, or a grace period later it is killed.
* **`Transition.traced`** — the step lemma: what a trace can be by the time a call comes to a stage.
* **`run_stopsInOrder`** — so it is in every session, with whatever process and whatever command for stopping.
-/

namespace LintPlan

/-! ## §1 — traces

What happens to the container of a call, with times. -/

/-- Something that happens to a container. -/
inductive Mark where
  /-- Its process exits by itself. -/
  | exited (code : ExitCode)
  /-- Something is done to it. -/
  | did (act : ContainerAct)
  deriving DecidableEq, Repr

/-- A mark with the call whose container it is about, and the time. -/
structure Deed where
  call : Nat
  time : Nat
  mark : Mark
  deriving DecidableEq, Repr

namespace Clocked

/-- What happens to containers by an action that leads from `k` to `k'`. -/
def deeds (k k' : Clocked) : ClockedAction → List Deed
  | .act (.move n m) =>
    let acts := k'.session.runner.acts.drop k.session.runner.acts.length
    (m.exits.map Mark.exited ++ acts.map Mark.did).map fun mark => ⟨n, k.now, mark⟩
  | _ => []

/-- What happens to containers by actions, as long as they are possible. -/
def trace (k : Clocked) (p : StopPolicy) (actions : List ClockedAction) : List Deed :=
  outputs (fun k a => k.act p a) (fun k a k' => k.deeds k' a) k actions

end Clocked

/-- What happens to the container of call number `n`, and when. -/
def marksOf (n : Nat) (trace : List Deed) : List (Nat × Mark) :=
  trace.filterMap fun d => if d.call = n then some (d.time, d.mark) else none

def actsOf (trace : List Deed) : List ContainerAct :=
  trace.filterMap fun d =>
    match d.mark with
    | .did act => some act
    | .exited _ => none

theorem marksOf_append (n : Nat) (trace more : List Deed) :
    marksOf n (trace ++ more) = marksOf n trace ++ marksOf n more := List.filterMap_append

variable {p : StopPolicy} {k k' : Clocked} {actions : List ClockedAction} {a : ClockedAction} {n : Nat}

/-- **An action of a session with a clock** lets time pass, or is one of the session that the policy allows. -/
theorem Clocked.act_cases (h : k.act p a = some k') :
    (∃ milliseconds, a = .pass milliseconds ∧ k' = { k with now := k.now + milliseconds }) ∨
      ∃ b s, a = .act b ∧ k.allows p b = true ∧ k.session.act b = some s ∧
        k' = { k with session := s, told := k.toldAfter b } := by
  cases a with
  | pass milliseconds =>
    cases h
    exact .inl ⟨milliseconds, rfl, rfl⟩
  | act b =>
    obtain ⟨hallows, hact⟩ := Option.ite_none_right_eq_some.mp h
    obtain ⟨s, hs, rfl⟩ := Option.map_eq_some_iff.mp hact
    exact .inr ⟨b, s, rfl, hallows, hs, rfl⟩

/-- **The induction along a history.** -/
theorem Clocked.run_history {I : List ClockedAction → Clocked → Prop} (hstart : I [] k)
    (hact : ∀ {before l a l'}, k.run p before = some l → I before l → l.act p a = some l' → I (before ++ [a]) l')
    (h : k.run p actions = some k') : I actions k' := foldlM_history hstart hact h

theorem trace_concat {l l' : Clocked} (h : k.run p actions = some l) (ha : l.act p a = some l') :
    k.trace p (actions ++ [a]) = k.trace p actions ++ l.deeds l' a := outputs_concat h ha

/-- **Everything that is done to containers is in the trace.** -/
theorem acts_trace (h : k.run p actions = some k') :
    k'.session.runner.acts = k.session.runner.acts ++ actsOf (k.trace p actions) := by
  refine Clocked.run_history
    (I := fun before l => l.session.runner.acts = k.session.runner.acts ++ actsOf (k.trace p before)) ?_ ?_ h
  · exact (List.append_nil _).symm
  · intro before l a l' hl ih ha
    have hdeeds : l'.session.runner.acts = l.session.runner.acts ++ actsOf (l.deeds l' a) := by
      rcases Clocked.act_cases ha with ⟨milliseconds, rfl, rfl⟩ | ⟨b, s, rfl, -, hact, rfl⟩
      · exact (List.append_nil _).symm
      · rcases LintPlan.act_cases hact with ⟨id, q, rfl, rfl⟩ | ⟨rfl, rfl⟩ | ⟨n, c, m, r', st, rfl, -, ht, rfl⟩
        · exact (List.append_nil _).symm
        · obtain ⟨slot, hslot⟩ := cancel_frame l.session.runner
          show l.session.runner.cancel.acts = _
          rw [hslot]
          exact (List.append_nil _).symm
        · obtain ⟨acts, hacts, -⟩ := ht.acts_eq
          show r'.acts = _
          unfold Clocked.deeds actsOf
          simp [hacts, List.filterMap_append, List.filterMap_map, Function.comp_def]
    rw [trace_concat hl ha, actsOf, List.filterMap_append, ← List.append_assoc, hdeeds, ih]
    rfl

/-- Other actions leave no mark on this call. -/
theorem marksOf_deeds_other {b : Action} (h : ∀ m, b ≠ .move n m) : marksOf n (k.deeds k' (.act b)) = [] := by
  cases b
  case move i m =>
    have hi : i ≠ n := by
      rintro rfl
      exact h m rfl
    unfold Clocked.deeds marksOf
    rw [List.filterMap_map, List.filterMap_eq_nil_iff]
    intro mark _
    exact if_neg hi
  all_goals rfl

theorem marksOf_deeds_own {m : Move} {acts : List ContainerAct}
    (h : k'.session.runner.acts = k.session.runner.acts ++ acts) :
    marksOf n (k.deeds k' (.act (.move n m))) =
      (m.exits.map Mark.exited ++ acts.map Mark.did).map fun mark => (k.now, mark) := by
  unfold Clocked.deeds marksOf
  dsimp only
  rw [h, List.drop_left, List.filterMap_map]
  have hsome : ((fun d : Deed => if d.call = n then some (d.time, d.mark) else none) ∘ fun mark => ⟨n, k.now, mark⟩) =
      fun mark => some (k.now, mark) := funext fun _ => if_pos rfl
  rw [hsome, List.filterMap_eq_map']

/-! ## §2 — what a trace can be

The grammar of traces, by how far the call has come. -/

/-- What has happened to a container before it is told to stop: its process runs, or it has exited, and whether that was
noticed. -/
inductive Beginning : Option ExitCode → Bool → List (Nat × Mark) → Prop where
  | running : Beginning none false []
  | exited {code : ExitCode} {t : Nat} : Beginning (some code) false [(t, .exited code)]
  | noticed {code : ExitCode} {t u : Nat} : Beginning (some code) true [(t, .exited code), (u, .did .waitedFor)]

/-- What has happened to a container that has been told to stop at the time `told`. -/
inductive Awaited (p : StopPolicy) (told : Option Nat) : Option ExitCode → List (Nat × Mark) → Prop where
  | running {attempt : StopAttempt} {t : Nat} (hby : attempt.isByCommand = p.hasCommand) (htold : told = some t) :
      Awaited p told none [(t, .did (.toldToStop attempt))]
  | before {code : ExitCode} {noticed : Bool} {front : List (Nat × Mark)} {attempt : StopAttempt} {t : Nat}
      (hfront : Beginning (some code) noticed front) (hby : attempt.isByCommand = p.hasCommand) :
      Awaited p told (some code) (front ++ [(t, .did (.toldToStop attempt))])
  | after {code : ExitCode} {attempt : StopAttempt} {t u : Nat} (hby : attempt.isByCommand = p.hasCommand) :
      Awaited p told (some code) [(t, .did (.toldToStop attempt)), (u, .exited code)]

/-- What has happened to a container that has outlasted the grace period. -/
inductive Outlasted (p : StopPolicy) : List (Nat × Mark) → Prop where
  | mk {attempt : StopAttempt} {t u : Nat} (hby : attempt.isByCommand = p.hasCommand) (hgrace : t + p.grace ≤ u) :
      Outlasted p [(t, .did (.toldToStop attempt)), (u, .did .outlastedGrace)]

/-- **What happens to a container that is stopped**, from its start on. There is one attempt to stop it, by the command of the
engine if it has one, and nobody uses force before. -/
inductive Subdued (p : StopPolicy) : List (Nat × Mark) → Prop where
  /-- Its process exits before it is told to stop, and somebody waits for it then. -/
  | exitedBefore {code : ExitCode} {noticed : Bool} {front : List (Nat × Mark)} {attempt : StopAttempt} {t u : Nat}
      (hfront : Beginning (some code) noticed front) (hby : attempt.isByCommand = p.hasCommand) :
      Subdued p (front ++ [(t, .did (.toldToStop attempt)), (u, .did .waitedFor)])
  /-- Its process exits when it has been told to stop. -/
  | exitedAfter {code : ExitCode} {attempt : StopAttempt} {t u v : Nat} (hby : attempt.isByCommand = p.hasCommand) :
      Subdued p [(t, .did (.toldToStop attempt)), (u, .exited code), (v, .did .waitedFor)]
  /-- Its process still runs a full grace period after the attempt. Then it is killed, and somebody waits for it. -/
  | killed {attempt : StopAttempt} {t u v : Nat} (hby : attempt.isByCommand = p.hasCommand) (hgrace : t + p.grace ≤ u) :
      Subdued p [(t, .did (.toldToStop attempt)), (u, .did .outlastedGrace), (v, .did .killed), (v, .did .waitedFor)]

/-- Is it an outcome after which the container was stopped? -/
def RunOutcome.isStopped : RunOutcome → Bool
  | .error .cancelled | .error (.timedOut _) => true
  | _ => false

/-- What has happened to a container by the time its call comes to a stage. -/
def Stage.Traced (p : StopPolicy) (told : Option Nat) (marks : List (Nat × Mark)) : Stage → Prop
  | .running k w => Beginning k.exit w.exit.isSome marks
  | .stopping k _ => ∃ noticed, Beginning k.exit noticed marks
  | .waiting k _ => Awaited p told k.exit marks
  | .killing _ _ => Outlasted p marks
  | .ended outcome | .reporting outcome | .leaving outcome | .deaf outcome | .released outcome | .returned outcome =>
    outcome.isStopped = true → Subdued p marks
  | _ => False

theorem isStopped_outcome (w : Watch) (code : ExitCode) : RunOutcome.isStopped (w.outcome code) = false := by
  unfold Watch.outcome
  split <;> rfl

/-! ## §3 — one step

A step adds to the trace what its stage allows. -/

/-- **The step lemma.** -/
theorem Transition.traced {id : String} {q : RunRequest} {r r' : Runner} {st st' : Stage} {m : Move}
    {acts : List ContainerAct} {now : Nat} {told told' : Option Nat} {marks marks' : List (Nat × Mark)}
    (h : Transition id q n r st m r' st') (hacts : r'.acts = r.acts ++ acts)
    (hmarks : marks' = marks ++ (m.exits.map Mark.exited ++ acts.map Mark.did).map fun mark => (now, mark))
    (hstop : ∀ attempt, m = .stop attempt → attempt.isByCommand = p.hasCommand ∧ told' = some now)
    (hkeep : (∀ attempt, m ≠ .stop attempt) → told' = told)
    (hgrace : m = .graceOver → ∃ since, told = some since ∧ since + p.grace ≤ now)
    (hst : st.Traced p told marks) : st'.Traced p told' marks' := by
  -- the new acts are those of the step
  have hnew : ∀ {new}, r'.acts = r.acts ++ new → acts = new := fun hr => List.append_cancel_left (hacts.symm.trans hr)
  have quiet : r'.acts = r.acts → m.exits = [] → marks' = marks := by
    intro hr hexits
    obtain rfl : acts = [] := hnew (hr.trans (List.append_nil _).symm)
    rw [hmarks, hexits]
    exact List.append_nil _
  cases h
  case exit spec w code =>
    obtain rfl : acts = [] := hnew (List.append_nil _).symm
    subst hmarks
    have hfront : Beginning none w.exit.isSome marks := hst
    show Beginning (some code) w.exit.isSome _
    generalize w.exit.isSome = noticed at hfront
    cases hfront
    exact .exited
  case line k w stream text hopen =>
    obtain rfl := quiet rfl rfl
    cases stream <;> exact hst
  case pipesClose =>
    obtain rfl := quiet rfl rfl
    exact hst
  case pipesCloseLast | noticeExitLast =>
    intro hstopped
    rw [isStopped_outcome] at hstopped
    cases hstopped
  case noticeExit spec w code hopen hunseen =>
    obtain rfl : acts = [.waitedFor] := hnew rfl
    subst hmarks
    have hfront : Beginning (some code) w.exit.isSome marks := hst
    rw [hunseen] at hfront
    cases hfront
    exact .noticed
  case waitFails =>
    intro hstopped
    cases hstopped
  case timeUp | noticeCancel =>
    obtain rfl := quiet rfl rfl
    exact ⟨_, hst⟩
  -- stopping: each stage has its own mark
  case exitStopping spec why code =>
    obtain rfl : acts = [] := hnew (List.append_nil _).symm
    subst hmarks
    obtain ⟨noticed, hfront⟩ := hst
    cases hfront
    exact ⟨false, .exited⟩
  case stop k why attempt =>
    obtain rfl : acts = [.toldToStop attempt] := hnew rfl
    subst hmarks
    obtain ⟨hby, htold⟩ := hstop attempt rfl
    obtain ⟨noticed, hfront⟩ := hst
    obtain ⟨spec, exit⟩ := k
    cases exit with
    | none =>
      cases hfront
      exact .running hby htold
    | some code => exact .before hfront hby
  case exitWaiting spec why code =>
    obtain rfl : acts = [] := hnew (List.append_nil _).symm
    subst hmarks
    cases hst with
    | running hby _ => exact .after hby
  case stopped spec why code =>
    obtain rfl : acts = [.waitedFor] := hnew rfl
    subst hmarks
    intro _
    -- the process had exited before the attempt, or has exited since
    cases hst with
    | before hfront hby =>
      rw [List.append_assoc]
      exact .exitedBefore hfront hby
    | after hby => exact .exitedAfter hby
  case graceOver spec why =>
    obtain rfl : acts = [.outlastedGrace] := hnew rfl
    subst hmarks
    -- the grace period is counted from the attempt that the trace shows
    obtain ⟨since, hsince, hover⟩ := hgrace rfl
    cases hst with
    | running hby htold =>
      obtain rfl := Option.some.inj (htold.symm.trans hsince)
      exact .mk hby hover
  case kill k why =>
    -- it is killed and waited for in one step
    obtain rfl : acts = [.killed, .waitedFor] := hnew (List.append_assoc ..)
    subst hmarks
    intro _
    obtain ⟨hby, hover⟩ := hst
    exact .killed hby hover
  -- on the way out nothing is done to it any more
  case clearSlot | report | stopListening | release | ret =>
    obtain rfl := quiet rfl rfl
    exact hst
  all_goals exact hst.elim

/-! ## §4 — every session

From steps to sessions, with other calls in between. -/

variable {c : Call} {s : Session}

/-- Nobody else tells it to stop. -/
theorem toldAfter_other {b : Action} (h : ∀ m, b ≠ .move n m) : k.toldAfter b n = k.told n := by
  cases b
  case move i m =>
    cases m
    case stop attempt =>
      refine if_neg ?_
      rintro rfl
      exact h _ rfl
    all_goals rfl
  all_goals rfl

/-- **One action.** -/
theorem traced_act {marks : List (Nat × Mark)} (hc : k.session.calls[n]? = some c) (h : k.act p a = some k')
    (htraced : c.stage.Traced p (k.told n) marks) :
    ∃ st, k'.session.calls[n]? = some { c with stage := st } ∧
      st.Traced p (k'.told n) (marks ++ marksOf n (k.deeds k' a)) := by
  rcases Clocked.act_cases h with ⟨milliseconds, rfl, rfl⟩ | ⟨b, s, rfl, hallows, hact, rfl⟩
  · refine ⟨c.stage, hc, ?_⟩
    rw [show marksOf n _ = [] from rfl, List.append_nil]
    exact htraced
  · rcases call_after hact hc with ⟨hsame, hother⟩ | ⟨m, st, rfl, ht, hst⟩
    · refine ⟨c.stage, hsame, ?_⟩
      rw [marksOf_deeds_other hother, List.append_nil]
      show c.stage.Traced p (k.toldAfter b n) marks
      rwa [toldAfter_other hother]
    · obtain ⟨acts, hacts, -⟩ := ht.acts_eq
      refine ⟨st, hst, ht.traced hacts (by rw [marksOf_deeds_own hacts]) ?_ ?_ ?_ htraced⟩
      · rintro attempt rfl
        exact ⟨beq_iff_eq.mp hallows, if_pos rfl⟩
      · intro hnot
        show k.toldAfter (.move n m) n = k.told n
        cases m
        case stop attempt => exact absurd rfl (hnot attempt)
        all_goals rfl
      · rintro rfl
        obtain ⟨since, hsince, hle⟩ := (Option.any_eq_true _ _).mp hallows
        exact ⟨since, hsince, of_decide_eq_true hle⟩

/-- In a session with a clock that the actions led to, call number `n` has stopped its container as it should, or not at all. -/
structure StopsInOrder (p : StopPolicy) (n : Nat) (k : Clocked) (actions : List ClockedAction) (k' : Clocked) : Prop where
  /-- What happened to containers is all that was done to them, in the order of time. -/
  complete : k'.session.runner.acts = k.session.runner.acts ++ actsOf (k.trace p actions)
  inTime : ((k.trace p actions).map Deed.time).Pairwise (· ≤ ·)
  /-- When the call returns that its time was up, or that it was cancelled, this has happened to its container. -/
  subdued : ∀ outcome, k'.session.result? n = some outcome →
    (outcome = .error .cancelled ∨ ∃ seconds, outcome = .error (.timedOut seconds)) →
      Subdued p (marksOf n (k.trace p actions))

theorem time_deeds {d : Deed} (h : d ∈ k.deeds k' a) : d.time = k.now := by
  unfold Clocked.deeds at h
  split at h
  · obtain ⟨mark, -, rfl⟩ := List.mem_map.mp h
    rfl
  · cases h

theorem now_le_act (h : k.act p a = some k') : k.now ≤ k'.now := by
  rcases Clocked.act_cases h with ⟨milliseconds, rfl, rfl⟩ | ⟨b, s, rfl, -, -, rfl⟩
  · exact Nat.le_add_right _ _
  · exact le_refl _

/-- **The clock never goes back.** -/
theorem inTime_run (h : k.run p actions = some k') :
    ((k.trace p actions).map Deed.time).Pairwise (· ≤ ·) ∧ ∀ d ∈ k.trace p actions, d.time ≤ k'.now := by
  refine Clocked.run_history (I := fun before l =>
    ((k.trace p before).map Deed.time).Pairwise (· ≤ ·) ∧ ∀ d ∈ k.trace p before, d.time ≤ l.now) ⟨.nil, nofun⟩ ?_ h
  rintro before l a l' hl ⟨hsorted, hle⟩ ha
  -- what was done before is not later than now, and what is done bears this time
  have hnow := now_le_act ha
  rw [trace_concat hl ha]
  constructor
  · rw [List.map_append, List.pairwise_append]
    refine ⟨hsorted, ?_, ?_⟩
    · rw [List.pairwise_map]
      refine List.pairwise_of_forall_mem_list ?_
      intro x hx y hy
      rw [time_deeds hx, time_deeds hy]
    · intro x hx y hy
      obtain ⟨d, hd, rfl⟩ := List.mem_map.mp hx
      obtain ⟨e, he, rfl⟩ := List.mem_map.mp hy
      rw [time_deeds he]
      exact hle d hd
  · intro d hd
    rcases List.mem_append.mp hd with hd | hd
    · exact (hle d hd).trans hnow
    · rw [time_deeds hd]
      exact hnow

/-- **A container is stopped once, and killed only after the grace period.** Whatever its process does, whatever the command
for stopping does if there is one, and whenever the call begins to stop it. -/
theorem run_stopsInOrder (hstart : s.act (.move n (.start none)) = some k.session) (hrun : k.run p actions = some k') :
    StopsInOrder p n k actions k' := by
  refine ⟨acts_trace hrun, (inTime_run hrun).1, ?_⟩
  intro outcome houtcome hwhy
  obtain ⟨c, spec, hc, hstage⟩ := stage_of_start hstart
  have htraced : ∃ st, k'.session.calls[n]? = some { c with stage := st } ∧
      st.Traced p (k'.told n) (marksOf n (k.trace p actions)) := by
    refine Clocked.run_history (I := fun before l => ∃ st, l.session.calls[n]? = some { c with stage := st } ∧
      st.Traced p (l.told n) (marksOf n (k.trace p before))) ?_ ?_ hrun
    · refine ⟨c.stage, hc, ?_⟩
      rw [hstage]
      exact .running
    · rintro before l a l' hl ⟨st, hst, htraced⟩ ha
      rw [trace_concat hl ha, marksOf_append]
      have hact := traced_act hst ha htraced
      exact hact
  obtain ⟨st, hst, htraced⟩ := htraced
  obtain ⟨d, hd, hreturned⟩ := stage_of_result? houtcome
  cases hst.symm.trans hd
  obtain rfl : st = .returned outcome := hreturned
  refine htraced ?_
  obtain rfl | ⟨seconds, rfl⟩ := hwhy <;> rfl

/-- The time of a call is up, and its process outlasts the grace period although the command for stopping succeeds. -/
def killedAfterGrace : List ClockedAction :=
  [.pass 300000, .act (.move 0 .timeUp), .act (.move 0 (.stop (.command true))), .pass 10000,
   .act (.move 0 .graceOver), .act (.move 0 .goOn), .act (.move 0 .goOn), .act (.move 0 .goOn), .act (.move 0 .goOn),
   .act (.move 0 .goOn), .act (.move 0 .goOn)]

/-- A time limit runs out, the container is told to stop by command, and it is killed after the whole grace period. -/
theorem run_stopsInOrder_killedAfterGrace :
    ∃ (s t : Session) (k : Clocked), s.act (.move 0 (.start none)) = some (Clocked.start t).session ∧
      (Clocked.start t).run ⟨true, 10000⟩ killedAfterGrace = some k ∧
      k.session.result? 0 = some (.error (.timedOut 300)) ∧
      StopsInOrder ⟨true, 10000⟩ 0 (Clocked.start t) killedAfterGrace k := by
  have hall : (((Session.start listenedTo).run untilStarted).any fun t =>
      ((Clocked.start t).run ⟨true, 10000⟩ killedAfterGrace).any fun k =>
        k.session.result? 0 == some (.error (.timedOut 300))) = true := by decide +kernel
  obtain ⟨t, ht, hclocked⟩ := (Option.any_eq_true _ _).mp hall
  obtain ⟨k, hrun, hresult⟩ := (Option.any_eq_true _ _).mp hclocked
  obtain ⟨s, hstart⟩ := start_of_untilStarted ht
  exact ⟨s, t, k, hstart, hrun, beq_iff_eq.mp hresult, run_stopsInOrder hstart hrun⟩

end LintPlan
