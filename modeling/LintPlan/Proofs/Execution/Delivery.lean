import LintPlan.Execution.Bus

/-!
# Delivery

What a listening subscriber gets out of the bus: whatever is emitted, in the order of emission and behind what was in its
mailbox before (**`pending_emitAll`**).
-/

namespace LintPlan.EventBus

variable {b : EventBus} {number : Nat} {s : Subscriber}

/-- Emitting two lists of events one after the other. -/
theorem emitAll_append (b : EventBus) (es fs : List ExecutionEvent) :
    b.emitAll (es ++ fs) = (b.emitAll es).emitAll fs := List.foldl_append

/-- The bus finds a subscriber of its own, under its number. -/
theorem mem_of_listener? (h : b.listener? number = some s) :
    s ∈ b.subscribers ∧ s.id = number ∧ s.listening = true := by
  unfold listener? at h
  have hfound := List.find?_some h
  rw [Bool.and_eq_true, beq_iff_eq] at hfound
  exact ⟨List.mem_of_find?_eq_some h, hfound⟩

/-- What waits for a receiver is in its mailbox. -/
theorem pending_of_listener? (h : b.listener? number = some s) : b.pending number = s.mailbox := by
  rw [pending, h]

/-- Who listens keeps listening, with one more event in the mailbox. -/
theorem listener?_emit (h : b.listener? number = some s) (e : ExecutionEvent) :
    (b.emit e).listener? number = some (s.receive e) := by
  unfold listener? emit at *
  rw [List.find?_map, List.find?_filter]
  -- receiving changes neither the number nor who listens, so both searches stop at the same place
  have hsame : (fun t : Subscriber => decide (t.listening = true ∧
        ((fun t => t.id == number && t.listening) ∘ fun t => t.receive e) t = true)) =
      fun t => t.id == number && t.listening := by
    funext t
    by_cases hn : t.id = number <;> cases hl : t.listening <;> simp [Subscriber.receive, hl, hn]
  rw [hsame, h]
  rfl

/-- **A listening subscriber gets what is emitted, in order.** -/
theorem pending_emitAll (h : b.listener? number = some s) (es : List ExecutionEvent) :
    (b.emitAll es).pending number = b.pending number ++ es := by
  induction es generalizing b s with
  | nil => rw [List.append_nil, emitAll, List.foldl_nil]
  | cons e es ih =>
    have hnext := listener?_emit h e
    show ((b.emit e).emitAll es).pending number = _
    rw [ih hnext, pending_of_listener? hnext, pending_of_listener? h, Subscriber.mailbox_receive, List.append_assoc]
    rfl

end LintPlan.EventBus
