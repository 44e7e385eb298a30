import LintPlan.Execution.Intake
import LintPlan.Proofs.Execution.PipeLines
import LintPlan.Proofs.Execution.Telling

/-!
# Lines on their way

A line of a container is unread, in the channel or told, and it is in one of these places only. So what a call has told of
a pipe and what is still on its way are together what can be read of the pipe, however the readers and the call take turns:

* **`Feed.run_history`** — what holds at the start and is kept by every action holds of every history.
* **`Intake.waiting`** — what is on its way; reading changes nothing about it, and taking a line takes it from the front.
* **`balanced_run`** — lines told and lines waiting are the lines that can be read.
-/

namespace LintPlan

/-! ## §1 — histories of a feed

A feed is a session with readers beside it. Its history has that of the session in it. -/

/-- What happens to the calls among the actions of a feed. -/
def sessionActions (actions : List FeedAction) : List Action :=
  actions.filterMap fun
    | .read _ => none
    | .act a => some a

variable {f f' g : Feed} {n : Nat} {actions : List FeedAction} {a : FeedAction}

/-- **An action of a feed** is one of a reader, or one of the session. -/
theorem Feed.act_cases (h : f.act n a = some f') :
    (∃ stream i, a = .read stream ∧ f.intake.read stream = some i ∧ f' = { f with intake := i }) ∨
      ∃ b i s, a = .act b ∧ f.take n b = some i ∧ f.session.act b = some s ∧ f' = ⟨s, i⟩ := by
  cases a with
  | read stream =>
    obtain ⟨i, hread, rfl⟩ := Option.map_eq_some_iff.mp h
    exact .inl ⟨stream, i, rfl, hread, rfl⟩
  | act b =>
    unfold Feed.act at h
    dsimp only at h
    cases htake : f.take n b with
    | none =>
      rw [htake] at h
      cases h
    | some i =>
      cases hact : f.session.act b with
      | none =>
        rw [htake, hact] at h
        cases h
      | some s =>
        rw [htake, hact] at h
        cases h
        exact .inr ⟨b, i, s, rfl, htake, hact, rfl⟩

/-- **The induction along a history.** -/
theorem Feed.run_history {I : List FeedAction → Feed → Prop} (hstart : I [] f)
    (hact : ∀ {before g a g'}, f.run n before = some g → I before g → g.act n a = some g' → I (before ++ [a]) g')
    (h : f.run n actions = some f') : I actions f' := foldlM_history hstart hact h

theorem sessionActions_read (stream : OutputStream) :
    sessionActions (actions ++ [.read stream]) = sessionActions actions := by
  rw [sessionActions, List.filterMap_append]
  exact List.append_nil _

theorem sessionActions_act (b : Action) : sessionActions (actions ++ [.act b]) = sessionActions actions ++ [b] := by
  rw [sessionActions, List.filterMap_append]
  rfl

/-- The session of a feed is reached by these actions. -/
theorem Feed.session_run (h : f.run n actions = some f') : f.session.run (sessionActions actions) = some f'.session := by
  refine Feed.run_history (I := fun before g => f.session.run (sessionActions before) = some g.session) rfl ?_ h
  intro before g a g' _ ih ha
  rcases Feed.act_cases ha with ⟨stream, i, rfl, -, rfl⟩ | ⟨b, i, s, rfl, -, hact, rfl⟩
  · rw [sessionActions_read]
    exact ih
  · rw [sessionActions_act]
    exact LintPlan.run_concat.mpr ⟨g.session, ih, hact⟩

/-- What is told by an action of a feed, and by which call. -/
def Feed.tells (f : Feed) : FeedAction → List (Nat × ExecutionEvent)
  | .read _ => []
  | .act b => f.session.tells b

theorem told_sessionActions (h : f.run n actions = some g) (ha : g.act n a = some f') :
    f.session.told (sessionActions (actions ++ [a])) = f.session.told (sessionActions actions) ++ g.tells a := by
  rcases Feed.act_cases ha with ⟨stream, i, rfl, -, -⟩ | ⟨b, i, s, rfl, -, hact, -⟩
  · rw [sessionActions_read]
    exact (List.append_nil _).symm
  · rw [sessionActions_act]
    exact told_concat (Feed.session_run h) hact

/-- A call keeps everything but its stage. -/
theorem call_run {s t : Session} {actions : List Action} {c : Call} (h : s.run actions = some t)
    (hc : s.calls[n]? = some c) : ∃ st, t.calls[n]? = some { c with stage := st } := by
  refine run_invariant (I := fun t => ∃ st, t.calls[n]? = some { c with stage := st }) ?_ h ⟨c.stage, hc⟩
  rintro t a t' ⟨st, ht⟩ ha
  rcases call_after ha ht with ⟨hsame, -⟩ | ⟨m, st', -, -, hst'⟩
  · exact ⟨st, hsame⟩
  · exact ⟨st', hst'⟩

theorem Feed.take_own (m : Move) : f.take n (.move n m) = f.intake.take m := if_pos rfl

theorem Feed.take_other {b : Action} (h : ∀ m, b ≠ .move n m) : f.take n b = some f.intake := by
  cases b
  case move k m =>
    refine if_neg ?_
    rintro rfl
    exact h m rfl
  all_goals rfl

/-! ## §2 — lines that wait

A line waits in the pipe or in the channel, in order. -/

namespace Intake

def passed (stream : OutputStream) (channel : List (OutputStream × String)) : List String :=
  channel.filterMap fun e => if e.1 = stream then some e.2 else none

/-- Lines of one pipe that are on their way: those in the channel, then those that will be read. -/
def waiting (i : Intake) (stream : OutputStream) : List String :=
  passed stream i.channel ++ Pipe.texts ((i.unread stream).getD [])

variable {i i' : Intake} {stream stream' : OutputStream} {pieces : Option (List (List UInt8))}

@[simp] theorem unread_withUnread : (i.withUnread stream' pieces).unread stream =
    if stream = stream' then pieces else i.unread stream := rfl

@[simp] theorem channel_withUnread : (i.withUnread stream' pieces).channel = i.channel := rfl

theorem passed_append (channel more : List (OutputStream × String)) :
    passed stream (channel ++ more) = passed stream channel ++ passed stream more := List.filterMap_append

theorem waiting_start (written : OutputStream → List UInt8) (stream : OutputStream) :
    (start written).waiting stream = Pipe.lines (written stream) := rfl

/-- An intake is over when both readers have left and the channel is empty. -/
theorem isOver_iff : i.isOver = true ↔ (∀ stream, i.unread stream = none) ∧ i.channel = [] := by
  simp only [isOver, Bool.and_eq_true, Option.isNone_iff_eq_none, List.isEmpty_iff]
  constructor
  · rintro ⟨⟨hstdout, hstderr⟩, hchannel⟩
    refine ⟨fun stream => ?_, hchannel⟩
    cases stream
    · exact hstdout
    · exact hstderr
  · rintro ⟨hunread, hchannel⟩
    exact ⟨⟨hunread _, hunread _⟩, hchannel⟩

theorem waiting_of_isOver (h : i.isOver = true) (stream : OutputStream) : i.waiting stream = [] := by
  obtain ⟨hunread, hchannel⟩ := isOver_iff.mp h
  rw [waiting, hunread, hchannel]
  rfl

/-- **What a reader does:** it passes a line on, or it leaves because no text is left to be read. -/
theorem read_cases (h : i.read stream = some i') :
    (∃ piece more line, i.unread stream = some (piece :: more) ∧ Pipe.text? piece = some line ∧
        i' = { i.withUnread stream (some more) with channel := i.channel ++ [(stream, line)] }) ∨
      ∃ left, i.unread stream = some left ∧ Pipe.texts left = [] ∧ i' = i.withUnread stream none := by
  unfold read at h
  split at h
  case h_1 => cases h
  case h_2 hunread =>
    cases h
    exact .inr ⟨[], hunread, rfl, rfl⟩
  case h_3 piece more hunread =>
    cases hpiece : Pipe.text? piece with
    | some line =>
      rw [hpiece] at h
      cases h
      exact .inl ⟨piece, more, line, hunread, hpiece, rfl⟩
    | none =>
      rw [hpiece] at h
      cases h
      have hnone : Pipe.texts (piece :: more) = [] := by rw [Pipe.texts, hpiece]
      exact .inr ⟨piece :: more, hunread, hnone, rfl⟩

/-- **What a call takes:** a line is the oldest in the channel, and other moves take nothing. -/
theorem take_cases {m : Move} (h : i.take m = some i') :
    (∃ stream text channel, m = .line stream text ∧ i.channel = (stream, text) :: channel ∧
        i' = { i with channel := channel }) ∨
      (∀ stream text, m ≠ .line stream text) ∧ i' = i := by
  cases m
  case line stream text =>
    unfold take at h
    cases hchannel : i.channel with
    | nil =>
      rw [hchannel] at h
      cases h
    | cons oldest channel =>
      rw [hchannel] at h
      dsimp only at h
      rw [Option.ite_none_right_eq_some, Option.some.injEq] at h
      obtain ⟨rfl, rfl⟩ := h
      exact .inl ⟨stream, text, channel, rfl, rfl, rfl⟩
  case pipesClose =>
    obtain ⟨-, h⟩ := Option.ite_none_right_eq_some.mp h
    cases h
    exact .inr ⟨nofun, rfl⟩
  all_goals
    cases h
    exact .inr ⟨nofun, rfl⟩

/-- **Reading passes lines on**, and changes nothing about what is on its way. -/
theorem waiting_read (h : i.read stream' = some i') (stream : OutputStream) : i'.waiting stream = i.waiting stream := by
  rcases read_cases h with ⟨piece, more, line, hunread, hpiece, rfl⟩ | ⟨left, hunread, hleft, rfl⟩
  · by_cases hs : stream = stream'
    · subst hs
      simp [waiting, hunread, passed, Pipe.texts, hpiece]
    · -- the other pipe: neither its reader nor its lines in the channel change
      have hother : passed stream [(stream', line)] = [] := by simp [passed, Ne.symm hs]
      simp [waiting, hs, passed_append, hother]
  · by_cases hs : stream = stream'
    · subst hs
      simp [waiting, hunread, hleft, Pipe.texts]
    · simp [waiting, hs]

end Intake

/-- The lines of one pipe that a move brings. -/
def Move.linesOf (stream : OutputStream) : Move → List String
  | .line stream' text => if stream' = stream then [text] else []
  | _ => []

theorem Move.linesOf_eq_nil {m : Move} (h : ∀ stream text, m ≠ .line stream text) (stream : OutputStream) :
    m.linesOf stream = [] := by
  cases m
  case line stream' text => exact absurd rfl (h stream' text)
  all_goals rfl

/-- **A call takes a line from the front** of what is on its way, and other moves take nothing. -/
theorem Intake.waiting_take {i i' : Intake} {m : Move} (h : i.take m = some i') (stream : OutputStream) :
    m.linesOf stream ++ i'.waiting stream = i.waiting stream := by
  rcases Intake.take_cases h with ⟨stream', text, channel, rfl, hchannel, rfl⟩ | ⟨hnoLine, rfl⟩
  · by_cases hs : stream' = stream <;> simp [Move.linesOf, Intake.waiting, Intake.passed, hchannel, hs]
  · rw [Move.linesOf_eq_nil hnoLine, List.nil_append]

/-! ## §3 — told and waiting

The lines that were told and those that wait are together all lines, at any time. -/

/-- What a step of call number `n` tells of a pipe are the lines that its move brings. -/
theorem Transition.linesTold_eq {id : String} {q : RunRequest} {r r' : Runner} {st st' : Stage} {m : Move}
    (h : Transition id q n r st m r' st') (stream : OutputStream) :
    linesTold n id stream ((st.tells id m).map fun e => (n, e)) = m.linesOf stream := by
  cases h
  case line => exact linesTold_eventsOf _ _ _
  all_goals rfl

/-- **One action.** What it tells of call number `n` comes from the front of what waits. -/
theorem balanced_act {c : Call} (hc : f.session.calls[n]? = some c) (h : f.act n a = some f') (stream : OutputStream) :
    linesTold n c.id stream (f.tells a) ++ f'.intake.waiting stream = f.intake.waiting stream := by
  rcases Feed.act_cases h with ⟨stream', i, rfl, hread, rfl⟩ | ⟨b, i, s, rfl, htake, hact, rfl⟩
  · exact Intake.waiting_read hread stream
  · show linesTold n c.id stream (f.session.tells b) ++ i.waiting stream = _
    -- what other calls do neither tells lines of this one nor takes any
    rcases call_after hact hc with ⟨-, hother⟩ | ⟨m, st, rfl, ht, -⟩
    · rw [linesTold_tells_other hother]
      rw [Feed.take_other hother] at htake
      cases htake
      rfl
    · rw [tells_move hc, ht.linesTold_eq]
      rw [Feed.take_own] at htake
      exact Intake.waiting_take htake stream

/-- **Lines told and lines waiting are the lines that could be read.** -/
theorem balanced_run {c : Call} (hc : f.session.calls[n]? = some c) (h : f.run n actions = some f')
    (stream : OutputStream) :
    linesTold n c.id stream (f.session.told (sessionActions actions)) ++ f'.intake.waiting stream =
      f.intake.waiting stream := by
  refine Feed.run_history (I := fun before g =>
    linesTold n c.id stream (f.session.told (sessionActions before)) ++ g.intake.waiting stream =
      f.intake.waiting stream) rfl ?_ h
  intro before g a g' hg ih ha
  obtain ⟨st, hst⟩ := call_run (Feed.session_run hg) hc
  rw [told_sessionActions hg ha, linesTold_append, List.append_assoc, balanced_act hst ha stream]
  exact ih

end LintPlan
