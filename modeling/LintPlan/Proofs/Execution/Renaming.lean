import LintPlan.Execution.Session
import LintPlan.Proofs.Execution.Delivery

/-!
# Other numbers, other identifiers

The number of a call only says whose requests the slot is for, and the identifier of an execution only shows in events and
in the name of a container. So a step of a call under other numbers and identifiers is the same step, as long as different
calls keep different numbers. Subscribers, earlier acts and the last state play no part in steps either, which is why two
runners are compared by what was added to them since two earlier times.

* **`Runner.InStep`** — what happened to one runner since some time happened to another one since some time.
* **`step_inStep`** — the step lemma: from runners in step, a call and the renamed call have the same moves, and these lead
  to runners in step again.
* **`prepare_inStep`** — the one step that reads the files reads nothing else.
-/

namespace LintPlan

/-! ## §1 — renaming

Numbers and ids of calls are names: nothing depends on them but equality. -/

/-- Other numbers for calls and other identifiers for executions; the names of containers follow the identifiers. -/
structure Renaming where
  /-- The other number of a call. -/
  number : Nat → Nat
  /-- The other identifier of an execution. -/
  id : String → String
  /-- The other name of a container. -/
  container : String → String
  container_name : ∀ i, container (Runner.containerName i) = Runner.containerName (id i)

variable (φ : Renaming)

/-- The event under the other identifier. -/
def ExecutionEvent.renamed : ExecutionEvent → ExecutionEvent
  | .stateChanged id state => .stateChanged (φ.id id) state
  | .toolStarted id linter => .toolStarted (φ.id id) linter
  | .output id stream line => .output (φ.id id) stream line

/-- The run of the container under the other name. -/
def RunSpec.renamed (spec : RunSpec) : RunSpec := { spec with containerName := φ.container spec.containerName }

/-- The container under the other name. -/
def Container.renamed (k : Container) : Container := { k with spec := k.spec.renamed φ }

/-- What is done, done to the container under the other name. -/
def ContainerAct.renamed : ContainerAct → ContainerAct
  | .described spec => .described (spec.renamed φ)
  | .started spec => .started (spec.renamed φ)
  | act => act

/-- The slot for the call with the other number. -/
def CancelSlot.renamed (slot : CancelSlot) : CancelSlot := { slot with owner := φ.number slot.owner }

/-- The stage with the other name of the container. -/
def Stage.renamed : Stage → Stage
  | .prepared spec => .prepared (spec.renamed φ)
  | .starting spec => .starting (spec.renamed φ)
  | .running k w => .running (k.renamed φ) w
  | .stopping k why => .stopping (k.renamed φ) why
  | .waiting k why => .waiting (k.renamed φ) why
  | .killing k why => .killing (k.renamed φ) why
  | stage => stage

/-- The call under the other identifier. -/
def Call.renamed (c : Call) : Call := ⟨φ.id c.id, c.request, c.stage.renamed φ⟩

/-- The action with the other numbers and identifiers. -/
def Action.renamed : Action → Action
  | .call id q => .call (φ.id id) q
  | .move n m => .move (φ.number n) m
  | .cancel => .cancel

/-- What happened to the runner `r` since it was `b` happened, under other numbers and identifiers, to the runner `ρ` since
it was `β`; and there is no difference between `r` and `ρ` that a step could notice. -/
structure Runner.InStep (b β r ρ : Runner) : Prop where
  setup : ρ.setup = r.setup
  files : ρ.files = r.files
  busy : ρ.busy = r.busy
  slot : ρ.slot = r.slot.map (CancelSlot.renamed φ)
  state : ρ.state = r.state ∨ r.state = b.state ∧ ρ.state = β.state
  bus : ∃ es, r.bus = b.bus.emitAll es ∧ ρ.bus = β.bus.emitAll (es.map (ExecutionEvent.renamed φ))
  acts : ∃ acts, r.acts = b.acts ++ acts ∧ ρ.acts = β.acts ++ acts.map (ContainerAct.renamed φ)

/-! ## §2 — the operations of runners

Each one keeps runners in step. -/

variable {φ} {b β r ρ : Runner} {n : Nat}

/-- The number `n` stays apart from the other one in the slot. -/
def Runner.Apart (φ : Renaming) (r : Runner) (n : Nat) : Prop :=
  ∀ slot, r.slot = some slot → (φ.number slot.owner = φ.number n ↔ slot.owner = n)

/-- A request counts for the same call. -/
theorem Runner.InStep.isCancelled (h : InStep φ b β r ρ) (hn : r.Apart φ n) :
    ρ.isCancelled (φ.number n) = r.isCancelled n := by
  unfold Runner.isCancelled
  rw [h.slot]
  cases hslot : r.slot with
  | none => rfl
  | some slot =>
    have howner : (φ.number slot.owner == φ.number n) = (slot.owner == n) := by
      rw [Bool.eq_iff_iff, beq_iff_eq, beq_iff_eq]
      exact hn slot hslot
    show (φ.number slot.owner == φ.number n && slot.requested) = (slot.owner == n && slot.requested)
    rw [howner]

theorem Runner.InStep.acceptsCancel (h : InStep φ b β r ρ) : ρ.acceptsCancel = r.acceptsCancel := by
  unfold Runner.acceptsCancel
  rw [h.slot]
  cases r.slot <;> rfl

theorem Runner.InStep.enter (h : InStep φ b β r ρ) (id : String) (state : ExecutionState) :
    InStep φ b β (r.enter id state) (ρ.enter (φ.id id) state) := by
  obtain ⟨es, hes, hes'⟩ := h.bus
  refine ⟨h.setup, h.files, h.busy, h.slot, .inl rfl, ⟨es ++ [.stateChanged id state], ?_, ?_⟩, h.acts⟩
  · rw [EventBus.emitAll_append, ← hes]
    rfl
  · rw [List.map_append, EventBus.emitAll_append, ← hes']
    rfl

theorem Runner.InStep.emitAll (h : InStep φ b β r ρ) (fs : List ExecutionEvent) :
    InStep φ b β (r.emitAll fs) (ρ.emitAll (fs.map (ExecutionEvent.renamed φ))) := by
  obtain ⟨es, hes, hes'⟩ := h.bus
  refine ⟨h.setup, h.files, h.busy, h.slot, h.state, ⟨es ++ fs, ?_, ?_⟩, h.acts⟩
  · rw [EventBus.emitAll_append, ← hes]
    rfl
  · rw [List.map_append, EventBus.emitAll_append, ← hes']
    rfl

theorem Runner.InStep.note (h : InStep φ b β r ρ) (act : ContainerAct) :
    InStep φ b β (r.note act) (ρ.note (act.renamed φ)) := by
  obtain ⟨acts, hacts, hacts'⟩ := h.acts
  refine ⟨h.setup, h.files, h.busy, h.slot, h.state, h.bus, acts ++ [act], ?_, ?_⟩
  · rw [← List.append_assoc, ← hacts]
    rfl
  · rw [List.map_append, ← List.append_assoc, ← hacts']
    rfl

theorem Runner.InStep.setBusy (h : InStep φ b β r ρ) (busy : Bool) :
    InStep φ b β { r with busy := busy } { ρ with busy := busy } :=
  ⟨h.setup, h.files, rfl, h.slot, h.state, h.bus, h.acts⟩

/-- The slot belongs to the other number. -/
theorem Runner.InStep.openSlot (h : InStep φ b β r ρ) (n : Nat) :
    InStep φ b β (r.openSlot n) (ρ.openSlot (φ.number n)) :=
  ⟨h.setup, h.files, h.busy, rfl, h.state, h.bus, h.acts⟩

/-- It is cleared alike. -/
theorem Runner.InStep.clearSlot (h : InStep φ b β r ρ) : InStep φ b β r.clearSlot ρ.clearSlot :=
  ⟨h.setup, h.files, h.busy, rfl, h.state, h.bus, h.acts⟩

/-- The same call stops listening. -/
theorem Runner.InStep.stopListening (h : InStep φ b β r ρ) (hn : r.Apart φ n) :
    InStep φ b β (r.stopListening n) (ρ.stopListening (φ.number n)) := by
  refine ⟨h.setup, h.files, h.busy, ?_, h.state, h.bus, h.acts⟩
  unfold Runner.stopListening
  rw [h.slot]
  cases hslot : r.slot with
  | none => rfl
  | some slot =>
    have howner := hn slot hslot
    by_cases hs : slot.owner = n
    · simp [CancelSlot.renamed, hs]
    · simp [CancelSlot.renamed, hs, mt howner.mp hs]

/-- A request is put in the slot of both. -/
theorem Runner.InStep.cancel (h : InStep φ b β r ρ) : InStep φ b β r.cancel ρ.cancel := by
  unfold Runner.cancel
  rw [h.acceptsCancel]
  by_cases haccepts : r.acceptsCancel = true
  · rw [if_pos haccepts, if_pos haccepts]
    refine ⟨h.setup, h.files, h.busy, ?_, h.state, h.bus, h.acts⟩
    rw [h.slot, Option.map_map, Option.map_map]
    rfl
  · rw [if_neg haccepts, if_neg haccepts]
    exact h

theorem renamed_ofConfiguration (configuration : Configuration) (repository image id : String) :
    (RunSpec.ofConfiguration configuration repository image (Runner.containerName id)).renamed φ =
      .ofConfiguration configuration repository image (Runner.containerName (φ.id id)) := by
  unfold RunSpec.renamed
  rw [← φ.container_name]
  rfl

/-- The plan does not depend on names, so both write the same. -/
theorem writePlan_inStep (h : Runner.InStep φ b β r ρ) (configuration : Configuration) (repository : String) :
    Runner.InStep φ b β (r.writePlan configuration repository).1 (ρ.writePlan configuration repository).1 ∧
      (ρ.writePlan configuration repository).2 = (r.writePlan configuration repository).2 := by
  unfold Runner.writePlan
  rw [h.setup, h.files]
  by_cases hwrites : r.setup.writesPlan = true
  · rw [if_pos hwrites, if_pos hwrites]
    dsimp only
    generalize (FileTree.replaceFile [] (Runner.planPath repository) (PlanText.render configuration)).on r.files = written
    obtain ⟨files, outcome⟩ := written
    rw [← h.setup]
    cases outcome <;> exact ⟨⟨rfl, rfl, h.busy, h.slot, h.state, h.bus, h.acts⟩, rfl⟩
  · rw [if_neg hwrites, if_neg hwrites]
    exact ⟨h, rfl⟩

/-- **Preparing a repository depends on the files and on the setup only.** -/
theorem prepare_inStep (h : Runner.InStep φ b β r ρ) (id : String) (q : RunRequest) :
    Runner.InStep φ b β (r.prepare id q).1 (ρ.prepare (φ.id id) q).1 ∧
      (ρ.prepare (φ.id id) q).2 = (r.prepare id q).2.map (RunSpec.renamed φ) := by
  unfold Runner.prepare
  rw [h.setup, h.files]
  cases hplace : r.files.resolve r.setup.here q.repository with
  | error fault => exact ⟨h, rfl⟩
  | ok found =>
    dsimp only
    obtain ⟨hwritten, houtcome⟩ := writePlan_inStep h q.configuration (Path.absolute found.1)
    generalize r.writePlan q.configuration (Path.absolute found.1) = written at hwritten houtcome
    generalize ρ.writePlan q.configuration (Path.absolute found.1) = written' at hwritten houtcome
    obtain ⟨r₁, outcome⟩ := written
    obtain ⟨ρ₁, outcome'⟩ := written'
    obtain rfl : outcome' = outcome := houtcome
    cases outcome' with
    | error fault => exact ⟨hwritten, rfl⟩
    | ok _ =>
      refine ⟨hwritten, ?_⟩
      show Except.ok _ = Except.ok _
      rw [hwritten.setup, renamed_ofConfiguration]

/-! ## §3 — steps

The step of a call under other names is the step under its own, renamed. The cases are those of the table. -/

/-- What a step of a call leads to, and what the step of the renamed call leads to. -/
abbrev StepInStep (φ : Renaming) (b β : Runner) : Option (Runner × Stage) → Option (Runner × Stage) → Prop :=
  Option.Rel fun x y => Runner.InStep φ b β x.1 y.1 ∧ y.2 = x.2.renamed φ

/-- A step under a condition. -/
theorem stepInStep_ite {p : Prop} [Decidable p] {x y : Runner × Stage}
    (h : p → Runner.InStep φ b β x.1 y.1 ∧ y.2 = x.2.renamed φ) :
    StepInStep φ b β (if p then some x else none) (if p then some y else none) := by
  by_cases hp : p
  · rw [if_pos hp, if_pos hp]
    exact .some (h hp)
  · rw [if_neg hp, if_neg hp]
    exact .none

variable {c : Call} {m : Move}

theorem renamed_eventsOf (w : Watch) (id : String) (stream : OutputStream) (line : String) :
    (w.eventsOf id stream line).map (ExecutionEvent.renamed φ) = w.eventsOf (φ.id id) stream line := by
  unfold Watch.eventsOf
  cases w.newTool? line <;> rfl

/-- **On the way in.** -/
theorem approach_inStep (h : Runner.InStep φ b β r ρ) (hn : r.Apart φ n) :
    StepInStep φ b β (c.approach n r m) ((c.renamed φ).approach (φ.number n) ρ m) := by
  obtain ⟨id, q, stage⟩ := c
  cases m
  case goOn =>
    cases stage
    case arrived =>
      show StepInStep φ b β (some _) (some _)
      -- the flag is the same, so both are let in or both are turned away
      rw [h.busy]
      by_cases hb : r.busy = true
      · rw [if_pos hb, if_pos hb]
        exact .some ⟨h, rfl⟩
      · rw [if_neg hb, if_neg hb]
        exact .some ⟨h.setBusy true, rfl⟩
    case admitted => exact .some ⟨h.openSlot n, rfl⟩
    case available => exact .some ⟨h.enter id .preparing, rfl⟩
    case preparing =>
      obtain ⟨hprepared, houtcome⟩ := prepare_inStep h id q
      simp only [Call.approach, Call.renamed, Stage.renamed]
      generalize r.prepare id q = prepared at hprepared houtcome
      generalize ρ.prepare (φ.id id) q = prepared' at hprepared houtcome
      obtain ⟨r₁, outcome⟩ := prepared
      obtain ⟨ρ₁, outcome'⟩ := prepared'
      cases outcome with
      | error fault =>
        obtain rfl : outcome' = .error fault := houtcome
        exact .some ⟨hprepared, rfl⟩
      | ok spec =>
        obtain rfl : outcome' = .ok (spec.renamed φ) := houtcome
        exact .some ⟨hprepared.note (.described spec), rfl⟩
    case prepared spec =>
      simp only [Call.approach, Call.renamed, Stage.renamed, h.isCancelled hn]
      by_cases hc : r.isCancelled n = true
      · rw [if_pos hc, if_pos hc]
        exact .some ⟨h, rfl⟩
      · rw [if_neg hc, if_neg hc]
        exact .some ⟨h, rfl⟩
    all_goals exact .none
  case answer seconds available =>
    cases stage
    case checking =>
      refine .some ⟨h, ?_⟩
      show (if available && seconds ≤ q.checkBudget then Stage.available
        else .leaving (.error (.unavailable ρ.setup.engine))) = _
      rw [h.setup]
      dsimp only
      split <;> rfl
    all_goals exact .none
  case noticeCancel =>
    cases stage
    case checking =>
      simp only [Call.approach, Call.renamed, Stage.renamed, h.isCancelled hn]
      exact stepInStep_ite fun _ => ⟨h.enter id .cancelled, rfl⟩
    all_goals exact .none
  case start fault =>
    cases stage
    case starting spec =>
      cases fault with
      | none => exact .some ⟨(h.note (.started spec)).enter id .running, rfl⟩
      | some fault =>
        refine .some ⟨h, ?_⟩
        show Stage.ended (.error (.spawn ρ.setup.engine fault)) = _
        rw [h.setup]
        rfl
    all_goals exact .none
  all_goals exact .none

theorem renamed_watching (k : Container) (w : Watch) :
    (Stage.watching k w).renamed φ = .watching (k.renamed φ) w := by
  unfold Stage.watching
  cases w.outcome? <;> rfl

/-- **With a container.** -/
theorem attend_inStep {k : Container} {w : Watch} (h : Runner.InStep φ b β r ρ) (hn : r.Apart φ n) :
    StepInStep φ b β (c.attend n r k w m) ((c.renamed φ).attend (φ.number n) ρ (k.renamed φ) w m) := by
  cases m
  case exit code => exact stepInStep_ite fun _ => ⟨h, rfl⟩
  case line stream text =>
    refine stepInStep_ite fun _ => ⟨?_, rfl⟩
    show Runner.InStep φ b β _ (ρ.emitAll (w.eventsOf (φ.id c.id) stream text))
    rw [← renamed_eventsOf]
    exact h.emitAll _
  case pipesClose => exact stepInStep_ite fun _ => ⟨h, (renamed_watching k _).symm⟩
  case noticeExit => exact stepInStep_ite fun _ => ⟨h.note .waitedFor, (renamed_watching k _).symm⟩
  case waitFails fault =>
    refine stepInStep_ite fun _ => ⟨h, ?_⟩
    rw [h.setup]
    rfl
  case timeUp => exact .some ⟨h, rfl⟩
  case noticeCancel =>
    simp only [Call.attend, h.isCancelled hn]
    exact stepInStep_ite fun _ => ⟨h, rfl⟩
  all_goals exact .none

/-- **Stopping the container.** -/
theorem subdue_inStep (h : Runner.InStep φ b β r ρ) :
    StepInStep φ b β (c.subdue r m) ((c.renamed φ).subdue ρ m) := by
  obtain ⟨id, q, stage⟩ := c
  cases stage
  case stopping k why =>
    obtain ⟨spec, exit⟩ := k
    cases m
    case exit code =>
      cases exit
      · exact .some ⟨h, rfl⟩
      · exact .none
    case stop attempt => exact .some ⟨h.note (.toldToStop attempt), rfl⟩
    all_goals exact .none
  case waiting k why =>
    obtain ⟨spec, exit⟩ := k
    cases m
    case exit code =>
      cases exit
      · exact .some ⟨h, rfl⟩
      · exact .none
    case noticeExit =>
      cases exit
      · exact .none
      · exact .some ⟨h.note .waitedFor, rfl⟩
    case graceOver =>
      cases exit
      · exact .some ⟨h.note .outlastedGrace, rfl⟩
      · exact .none
    all_goals exact .none
  case killing k why =>
    cases m
    case goOn => exact .some ⟨(h.note .killed).note .waitedFor, rfl⟩
    all_goals exact .none
  all_goals cases m <;> exact .none

/-- **On the way out.** -/
theorem depart_inStep (h : Runner.InStep φ b β r ρ) (hn : r.Apart φ n) :
    StepInStep φ b β (c.depart n r) ((c.renamed φ).depart (φ.number n) ρ) := by
  obtain ⟨id, q, stage⟩ := c
  cases stage
  case ended => exact .some ⟨h.clearSlot, rfl⟩
  case reporting outcome => exact .some ⟨h.enter id outcome.state, rfl⟩
  case leaving => exact .some ⟨h.stopListening hn, rfl⟩
  case deaf => exact .some ⟨h.clearSlot, rfl⟩
  case released => exact .some ⟨h.setBusy false, rfl⟩
  all_goals exact .none

/-- **The step lemma.** A call and the renamed call have the same moves, and these lead to runners in step. -/
theorem step_inStep (h : Runner.InStep φ b β r ρ) (hn : r.Apart φ n) :
    StepInStep φ b β (c.step n r m) ((c.renamed φ).step (φ.number n) ρ m) := by
  -- on the way out there is one move only
  have hgoOn : ∀ {x y}, StepInStep φ b β x y →
      StepInStep φ b β (if m = .goOn then x else none) (if m = .goOn then y else none) := by
    intro x y hxy
    by_cases hm : m = .goOn
    · rwa [if_pos hm, if_pos hm]
    · rw [if_neg hm, if_neg hm]
      exact .none
  obtain ⟨id, q, stage⟩ := c
  -- a stage and the renamed one are in the same part of the table of moves
  have happroach := fun stage => approach_inStep (c := ⟨id, q, stage⟩) (m := m) h hn
  have hsubdue := fun stage => subdue_inStep (c := ⟨id, q, stage⟩) (m := m) h
  have hdepart := fun stage => hgoOn (depart_inStep (c := ⟨id, q, stage⟩) h hn)
  cases stage with
  | arrived => exact happroach .arrived
  | admitted => exact happroach .admitted
  | checking => exact happroach .checking
  | available => exact happroach .available
  | preparing => exact happroach .preparing
  | prepared spec => exact happroach (.prepared spec)
  | starting spec => exact happroach (.starting spec)
  | running k w => exact attend_inStep (c := ⟨id, q, .running k w⟩) h hn
  | stopping k why => exact hsubdue (.stopping k why)
  | waiting k why => exact hsubdue (.waiting k why)
  | killing k why => exact hsubdue (.killing k why)
  | ended outcome => exact hdepart (.ended outcome)
  | reporting outcome => exact hdepart (.reporting outcome)
  | leaving outcome => exact hdepart (.leaving outcome)
  | deaf outcome => exact hdepart (.deaf outcome)
  | released outcome => exact hdepart (.released outcome)
  | returned outcome => exact .none

end LintPlan
