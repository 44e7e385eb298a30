import LintPlan.Proofs.Execution.EventBlocks
import LintPlan.Proofs.Execution.Feeding

/-!
# Watching a container to its end

A call that watches its container, with nobody to cancel it and time enough, comes to its end in one way only: it has seen
every line, both pipes are closed and the exit has been noticed, in whatever order these came.

* **`Transition.attends`** — the step lemma: what has been seen grows by the line that arrives, and the watch is over only
  when the intake is.
* **`attends_run`** — so it is in every feed that a start of the container is followed by.
* **`returned_run`** — what has been told and is returned then.
-/

namespace LintPlan

/-! ## §1 — what has been seen

The lines of a watch in the order in which they came, and what they make of an exit. -/

/-- The lines of one pipe that have been seen, the oldest first. -/
def Watch.seen (w : Watch) : OutputStream → List String
  | .stdout => w.stdout.reverse
  | .stderr => w.stderr.reverse

theorem seen_start (names : List String) (stream : OutputStream) : (Watch.start names).seen stream = [] := by
  cases stream <;> rfl

theorem seen_add (w : Watch) (stream' stream : OutputStream) (text : String) :
    (w.add stream' text).seen stream = w.seen stream ++ (Move.line stream' text).linesOf stream := by
  cases stream' <;> cases stream <;> simp [Watch.add, Watch.seen, Move.linesOf]

/-- What comes of a container that has written these lines and exited. -/
def outcomeOf (lines : OutputStream → List String) (code : ExitCode) : RunOutcome :=
  if code = some 0 then .ok ⟨lines .stdout, (lines .stdout).length + (lines .stderr).length⟩
  else
    let text := Text.lines (Watch.textOf (lines .stderr))
    .error (.nonZeroExit code (Text.joined "\n" ((text.drop (text.length - Watch.tailLines)).map String.ofList)))

theorem outcome_eq (w : Watch) (code : ExitCode) : w.outcome code = outcomeOf w.seen code := by
  unfold Watch.outcome outcomeOf Watch.stderrTail Watch.seen
  rw [List.length_reverse, List.length_reverse]

/-! ## §2 — one step

The invariant of a call that nothing disturbs: it runs and has seen these lines, or it is over with what they make. -/

/-- Does a move leave a call alone to watch its container? It does unless the time is up, the call notices that it is
cancelled, or it cannot wait for the process. -/
def Move.isCalm : Move → Bool
  | .timeUp | .noticeCancel | .waitFails _ => false
  | _ => true

/-- The exit that a move brings, if any. -/
def Move.exits : Move → List ExitCode
  | .exit code => [code]
  | _ => []

/-- A call at a stage has watched its container: these lines have been seen, and the process has exited as it says. The
watch goes on until the exit has been noticed and the pipes are closed, for which the intake has to be over. -/
def Stage.Attends (lines : OutputStream → List String) (exits : List ExitCode) (drained : Prop) : Stage → Prop
  | .running k w =>
    (∀ stream, w.seen stream = lines stream) ∧ exits = k.exit.toList ∧ (w.exit = none ∨ w.exit = k.exit) ∧
      (w.pipesOpen = false → drained) ∧ w.outcome? = none
  | .ended outcome | .reporting outcome | .leaving outcome | .deaf outcome | .released outcome | .returned outcome =>
    drained ∧ ∃ code, exits = [code] ∧ outcome = outcomeOf lines code
  | _ => False

theorem Stage.Attends.mono {lines : OutputStream → List String} {exits : List ExitCode} {drained drained' : Prop} {st : Stage}
    (h : st.Attends lines exits drained) (himp : drained → drained') : st.Attends lines exits drained' := by
  cases st
  case running k w =>
    obtain ⟨hseen, hexits, hexit, hclosed, hgoing⟩ := h
    exact ⟨hseen, hexits, hexit, fun hc => himp (hclosed hc), hgoing⟩
  case ended | reporting | leaving | deaf | released | returned => exact ⟨himp h.1, h.2⟩
  all_goals exact h.elim

variable {id : String} {q : RunRequest} {n : Nat} {r r' : Runner} {st st' : Stage} {m : Move}
  {lines lines' : OutputStream → List String} {exits exits' : List ExitCode} {drained : Prop}

/-- **The step lemma.** -/
theorem Transition.attends (h : Transition id q n r st m r' st') (hcalm : m.isCalm = true)
    (hclose : m = .pipesClose → drained) (hlines : ∀ stream, lines' stream = lines stream ++ m.linesOf stream)
    (hexits : exits' = exits ++ m.exits) (hst : st.Attends lines exits drained) : st'.Attends lines' exits' drained := by
  -- most moves bring neither a line nor an exit
  have quiet : (∀ stream, m.linesOf stream = []) → m.exits = [] → lines' = lines ∧ exits' = exits := by
    intro hnoLine hnoExit
    constructor
    · funext stream
      rw [hlines, hnoLine, List.append_nil]
    · rw [hexits, hnoExit, List.append_nil]
  cases h
  case exit spec w code =>
    obtain ⟨hseen, rfl, hexit, hclosed, hgoing⟩ := hst
    have hunseen : w.exit = none := by
      rcases hexit with hexit | hexit <;> exact hexit
    obtain rfl : lines' = lines := funext fun stream => (hlines stream).trans (List.append_nil _)
    exact ⟨hseen, hexits, .inl hunseen, hclosed, hgoing⟩
  case line k w stream' text hopen =>
    obtain ⟨hseen, hexit', hexit, hclosed, -⟩ := hst
    obtain rfl : exits' = exits := hexits.trans (List.append_nil _)
    obtain ⟨hopen', hsame⟩ : (w.add stream' text).pipesOpen = true ∧ (w.add stream' text).exit = w.exit := by
      cases stream' <;> exact ⟨hopen, rfl⟩
    refine ⟨?_, hexit', hsame ▸ hexit, ?_, ?_⟩
    · intro stream
      rw [seen_add, hseen, hlines]
    · intro hclosed'
      rw [hopen'] at hclosed'
      cases hclosed'
    · rw [Watch.outcome?, hopen']
  case pipesClose k w hopen hunseen =>
    obtain ⟨rfl, rfl⟩ := quiet (fun _ => rfl) rfl
    obtain ⟨hseen, hexit', hexit, -, -⟩ := hst
    refine ⟨hseen, hexit', hexit, fun _ => hclose rfl, ?_⟩
    rw [Watch.outcome?, hunseen]
  case pipesCloseLast k w code hopen hseenExit =>
    obtain ⟨rfl, rfl⟩ := quiet (fun _ => rfl) rfl
    obtain ⟨hseen, rfl, hexit, -, -⟩ := hst
    -- the exit that was noticed is the one that the process has made
    have hcode : k.exit = some code := by
      rcases hexit with hexit | hexit
      · cases hseenExit.symm.trans hexit
      · exact hexit.symm.trans hseenExit
    refine ⟨hclose rfl, code, by rw [hcode]; rfl, ?_⟩
    rw [outcome_eq, funext hseen]
  case noticeExit spec w code hopen hunseen =>
    obtain ⟨rfl, rfl⟩ := quiet (fun _ => rfl) rfl
    obtain ⟨hseen, hexit', -, hclosed, -⟩ := hst
    refine ⟨hseen, hexit', .inr rfl, hclosed, ?_⟩
    rw [Watch.outcome?, hopen]
  case noticeExitLast spec w code hclosed' hunseen =>
    obtain ⟨rfl, rfl⟩ := quiet (fun _ => rfl) rfl
    obtain ⟨hseen, hexit', -, hclosed, -⟩ := hst
    refine ⟨hclosed hclosed', code, hexit', ?_⟩
    rw [outcome_eq, funext hseen]
  -- what is settled stays settled
  case clearSlot | report | stopListening | release | ret =>
    obtain ⟨rfl, rfl⟩ := quiet (fun _ => rfl) rfl
    exact hst
  case waitFails | timeUp | noticeCancel => cases hcalm
  all_goals exact hst.elim

/-! ## §3 — a whole feed

From one step to all actions behind the start. -/

/-- In a history, call number `n` is left alone to watch its container. -/
def Undisturbed (n : Nat) (actions : List FeedAction) : Prop :=
  ∀ m, .act (.move n m) ∈ actions → m.isCalm = true

def FeedAction.isCalm : FeedAction → Bool
  | .act (.move _ m) => m.isCalm
  | _ => true

theorem undisturbed_of_all {n : Nat} {actions : List FeedAction} (h : actions.all FeedAction.isCalm = true) :
    Undisturbed n actions := fun _ hm => List.all_eq_true.mp h _ hm

theorem Undisturbed.of_concat {n : Nat} {actions : List FeedAction} {a : FeedAction} (h : Undisturbed n (actions ++ [a])) :
    Undisturbed n actions ∧ ∀ m, a = .act (.move n m) → m.isCalm = true := by
  refine ⟨fun m hm => h m (List.mem_append_left _ hm), ?_⟩
  rintro m rfl
  exact h m (List.mem_append_right actions (List.mem_singleton_self _))

def exitsOf (n : Nat) (actions : List FeedAction) : List ExitCode :=
  actions.flatMap fun
    | .act (.move k m) => if k = n then m.exits else []
    | _ => []

/-- Exits are collected action by action. -/
theorem exitsOf_append (n : Nat) (actions more : List FeedAction) :
    exitsOf n (actions ++ more) = exitsOf n actions ++ exitsOf n more := List.flatMap_append

/-- Other actions have none. -/
theorem exitsOf_other {n : Nat} {b : Action} (h : ∀ m, b ≠ .move n m) : exitsOf n [.act b] = [] := by
  cases b
  case move k m =>
    have hk : k ≠ n := by
      rintro rfl
      exact h m rfl
    simp [exitsOf, hk]
  all_goals rfl

variable {s t : Session} {f f' : Feed} {a : FeedAction} {actions : List FeedAction} {c : Call}

/-- **An intake that is over stays over**, whatever happens. -/
theorem isOver_act (h : f.act n a = some f') (hover : f.intake.isOver = true) : f'.intake.isOver = true := by
  obtain ⟨hunread, hchannel⟩ := Intake.isOver_iff.mp hover
  rcases Feed.act_cases h with ⟨stream, i, rfl, hread, rfl⟩ | ⟨b, i, s, rfl, htake, -, rfl⟩
  · rw [Intake.read, hunread] at hread
    cases hread
  · show i.isOver = true
    have hsame : ∀ m, f.intake.take m = some i → i = f.intake := by
      intro m hm
      rcases Intake.take_cases hm with ⟨stream, text, channel, -, hline, -⟩ | ⟨-, heq⟩
      · cases hchannel.symm.trans hline
      · exact heq
    by_cases hother : ∀ m, b ≠ .move n m
    · rw [Feed.take_other hother] at htake
      rwa [← Option.some.inj htake]
    · obtain ⟨m, hm⟩ := not_forall_not.mp hother
      rw [hm, Feed.take_own] at htake
      rwa [hsame m htake]

/-- **One action.** -/
theorem attends_act {lines : OutputStream → List String} (hc : f.session.calls[n]? = some c)
    (h : f.act n a = some f') (hcalm : ∀ m, a = .act (.move n m) → m.isCalm = true)
    (hattends : c.stage.Attends lines exits (f.intake.isOver = true)) :
    ∃ st, f'.session.calls[n]? = some { c with stage := st } ∧
      st.Attends
        (fun stream => lines stream ++ linesTold n c.id stream (f.tells a))
        (exits ++ exitsOf n [a]) (f'.intake.isOver = true) := by
  have hover := isOver_act h
  -- an action that is none of the call's changes nothing but the intake
  have hstill : ∀ {st : Stage}, st.Attends lines exits (f.intake.isOver = true) →
      st.Attends (fun stream => lines stream ++ []) (exits ++ []) (f'.intake.isOver = true) := by
    intro st hst
    simpa only [List.append_nil] using hst.mono hover
  rcases Feed.act_cases h with ⟨stream, i, rfl, -, rfl⟩ | ⟨b, i, s, rfl, htake, hact, rfl⟩
  · exact ⟨c.stage, hc, hstill hattends⟩
  · rcases call_after hact hc with ⟨hsame, hother⟩ | ⟨m, st, rfl, ht, hst⟩
    · refine ⟨c.stage, hsame, ?_⟩
      have hnoLine : ∀ stream, linesTold n c.id stream (f.tells (.act b)) = [] := fun _ => linesTold_tells_other hother
      simp only [hnoLine, exitsOf_other hother]
      exact hstill hattends
    · refine ⟨st, hst, ?_⟩
      refine ht.attends (hcalm m rfl) ?_ ?_ ?_ (hattends.mono hover)
      · rintro rfl
        rw [Feed.take, if_pos rfl] at htake
        obtain ⟨hisOver, -⟩ := Option.ite_none_right_eq_some.mp htake
        exact hover hisOver
      · intro stream
        show _ ++ linesTold n c.id stream (f.session.tells (.move n m)) = _
        rw [tells_move hc, ht.linesTold_eq]
      · simp [exitsOf]

theorem stage_of_start (hstart : s.act (.move n (.start none)) = some t) :
    ∃ c spec, t.calls[n]? = some c ∧ c.stage = .running ⟨spec, none⟩ (.start c.request.configuration.linters.enabledNames) := by
  obtain ⟨c, r', st, -, ht, -, hst⟩ := move_cases hstart
  generalize c.stage = stage at ht
  cases ht with
  | start => exact ⟨_, _, hst, rfl⟩

/-- **A call that is left alone watches its container to the end.** -/
theorem attends_run {written : OutputStream → List UInt8} (hstart : s.act (.move n (.start none)) = some t)
    (hc : t.calls[n]? = some c) (hrun : Feed.run ⟨t, .start written⟩ n actions = some f)
    (hcalm : Undisturbed n actions) :
    ∃ st, f.session.calls[n]? = some { c with stage := st } ∧
      st.Attends (fun stream => linesTold n c.id stream (t.told (sessionActions actions))) (exitsOf n actions)
        (f.intake.isOver = true) := by
  refine Feed.run_history (I := fun before g => Undisturbed n before → ∃ st,
    g.session.calls[n]? = some { c with stage := st } ∧
      st.Attends (fun stream => linesTold n c.id stream (t.told (sessionActions before))) (exitsOf n before)
        (g.intake.isOver = true)) ?_ ?_ hrun hcalm
  · rintro -
    obtain ⟨d, spec, hd, hstage⟩ := stage_of_start hstart
    obtain rfl : c = d := Option.some.inj (hc.symm.trans hd)
    refine ⟨_, hc, ?_⟩
    rw [hstage]
    exact ⟨seen_start _, rfl, .inl rfl, nofun, rfl⟩
  · intro before g a g' hg ih ha hcalm
    obtain ⟨hbefore, hlast⟩ := hcalm.of_concat
    obtain ⟨st, hst, hattends⟩ := ih hbefore
    obtain ⟨st', hst', hattends'⟩ := attends_act hst ha hlast hattends
    refine ⟨st', hst', ?_⟩
    rw [exitsOf_append, told_sessionActions hg ha]
    simpa only [linesTold_append] using hattends'

/-- **What a call that was left alone has told and returns:** all lines that could be read, and what they and the exit say. -/
theorem returned_run {written : OutputStream → List UInt8} {outcome : RunOutcome}
    (hstart : s.act (.move n (.start none)) = some t) (hc : t.calls[n]? = some c)
    (hrun : Feed.run ⟨t, .start written⟩ n actions = some f) (hcalm : Undisturbed n actions)
    (houtcome : f.session.result? n = some outcome) :
    (∀ stream, linesTold n c.id stream (t.told (sessionActions actions)) = Pipe.lines (written stream)) ∧
      ∃ code, exitsOf n actions = [code] ∧ outcome = outcomeOf (fun stream => Pipe.lines (written stream)) code := by
  obtain ⟨st, hst, hattends⟩ := attends_run hstart hc hrun hcalm
  obtain ⟨d, hd, hreturned⟩ := stage_of_result? houtcome
  cases hst.symm.trans hd
  obtain rfl : st = .returned outcome := hreturned
  obtain ⟨hover, code, hcode, rfl⟩ := hattends
  have hall : ∀ stream, linesTold n c.id stream (t.told (sessionActions actions)) = Pipe.lines (written stream) := by
    intro stream
    have hbalanced := balanced_run (f := ⟨t, .start written⟩) hc hrun stream
    rwa [Intake.waiting_of_isOver hover, List.append_nil] at hbalanced
  exact ⟨hall, code, hcode, by rw [funext hall]⟩

end LintPlan
