import LintPlan.Json.Decode

/-!
# Sorted entries

A map is a list of entries that are sorted by their keys; new ones are inserted where they belong.

* **`mem_of_mem_insertSorted`** — nothing else comes in.
* **`filter_insertSorted`** — what came in can be taken out again.
* **`lookup_insertSorted`** — what came in is found, and everything else as before.
* **`InOrder.insertSorted`** — the keys stay in their order.
* **`foldlM_insertSorted`** — a map that is read entry by entry is what was read, if its keys are in order.
-/

namespace LintPlan.Json

variable {α β γ : Type} [DecidableEq α] {lt : α → α → Bool} {key : α} {value : β} {entries : List (α × β)}

/-! ## §1 — one new entry

An entry is put in by walking along the map to the first key that is not smaller. The lemmas follow that walk. -/

/-- What is in the map afterwards is the new entry or was in it before. -/
theorem mem_of_mem_insertSorted {e : α × β} (h : e ∈ insertSorted lt key value entries) : e = (key, value) ∨ e ∈ entries := by
  induction entries with
  | nil => exact .inl (List.mem_singleton.mp h)
  | cons entry rest ih =>
    obtain ⟨k, v⟩ := entry
    unfold insertSorted at h
    split at h
    · exact (List.mem_cons.mp h).imp_right (List.mem_cons_of_mem _)
    · split at h
      · exact List.mem_cons.mp h
      · rcases List.mem_cons.mp h with rfl | h
        · exact .inr List.mem_cons_self
        · exact (ih h).imp_right (List.mem_cons_of_mem _)

theorem filter_map_ne [DecidableEq γ] {f : β → γ} {y : γ} {xs : List β} (h : ∀ x ∈ xs, f x ≠ y) :
    (xs.map f).filter (· ≠ y) = xs.map f := by
  rw [List.filter_eq_self]
  intro z hz
  obtain ⟨x, hx, rfl⟩ := List.mem_map.mp hz
  exact decide_eq_true (h x hx)

/-- **A new entry can be taken out again**, wherever it was inserted. -/
theorem filter_insertSorted [DecidableEq γ] (f : α × β → γ) (hkey : ∀ e ∈ entries, e.1 ≠ key)
    (hf : ∀ e ∈ entries, f e ≠ f (key, value)) :
    ((insertSorted lt key value entries).map f).filter (· ≠ f (key, value)) = entries.map f := by
  induction entries with
  | nil => simp [insertSorted]
  | cons e entries ih =>
    obtain ⟨k, v⟩ := e
    obtain ⟨hk, hkeys⟩ := List.forall_mem_cons.mp hkey
    obtain ⟨hfk, hfs⟩ := List.forall_mem_cons.mp hf
    rw [insertSorted, if_neg hk]
    split
    · rw [List.map_cons, List.filter_cons, if_neg (by simp), filter_map_ne hf]
    · rw [List.map_cons, List.filter_cons, if_pos (decide_eq_true hfk), ih hkeys hfs, List.map_cons]

theorem lookup_cons_eq_ite (k k' : String) (v : β) (m : List (String × β)) :
    ((k', v) :: m).lookup k = if k = k' then some v else m.lookup k := by
  rw [List.lookup_cons]
  by_cases hk : k = k'
  · rw [if_pos hk, beq_iff_eq.mpr hk]
  · rw [if_neg hk, beq_eq_false_iff_ne.mpr hk]

/-- **What came in is found**, and everything else as before. -/
theorem lookup_insertSorted {lt : String → String → Bool} {m : List (String × β)} (key : String) (value : β) (k : String) :
    (insertSorted lt key value m).lookup k = if k = key then some value else m.lookup k := by
  induction m with
  | nil => exact lookup_cons_eq_ite ..
  | cons e m ih =>
    obtain ⟨k', v⟩ := e
    rw [insertSorted]
    split
    · next hsame =>
      rw [lookup_cons_eq_ite, lookup_cons_eq_ite, hsame]
      split <;> rfl
    · next hother =>
      split
      · exact lookup_cons_eq_ite ..
      · -- the new entry goes behind this one, which has another key
        rw [lookup_cons_eq_ite, lookup_cons_eq_ite, ih]
        by_cases hk : k = k'
        · rw [if_pos hk, if_neg (hk ▸ hother), if_pos hk]
        · rw [if_neg hk, if_neg hk]

theorem lookup_map_snd {m : List (String × β)} (f : β → γ) (k : String) :
    (m.map fun e => (e.1, f e.2)).lookup k = (m.lookup k).map f := by
  induction m with
  | nil => rfl
  | cons e m ih =>
    rw [List.map_cons, List.lookup_cons, List.lookup_cons, ih]
    cases k == e.1 <;> rfl

/-! ## §2 — all entries of a map

A map that is in order is built up again from its own entries, each put at the end. -/

/-- Every key of a map comes before the keys behind it. -/
def Increasing (lt : α → α → Bool) (entries : List (α × β)) : Prop :=
  entries.Pairwise fun a b => a.1 ≠ b.1 ∧ lt b.1 a.1 = false

theorem insertSorted_last (h : ∀ e ∈ entries, e.1 ≠ key ∧ lt key e.1 = false) :
    insertSorted lt key value entries = entries ++ [(key, value)] := by
  induction entries with
  | nil => rfl
  | cons e entries ih =>
    obtain ⟨⟨hne, hlt⟩, hentries⟩ := List.forall_mem_cons.mp h
    rw [insertSorted, if_neg hne, hlt, ih hentries]
    rfl

/-- Entries whose keys are in order are inserted one behind the other. -/
theorem foldlM_insertSorted {entry : α × β → String × Json} {step : List (α × β) → String × Json → Option (List (α × β))}
    {m : List (α × β)} (hstep : ∀ e ∈ m, ∀ done, step done (entry e) = some (insertSorted lt e.1 e.2 done)) :
    ∀ done, Increasing lt (done ++ m) → (m.map entry).foldlM step done = some (done ++ m) := by
  induction m with
  | nil => exact fun done _ => by rw [List.append_nil]; rfl
  | cons e m ih =>
    intro done hm
    obtain ⟨he, hrest⟩ := List.forall_mem_cons.mp hstep
    have hlast : insertSorted lt e.1 e.2 done = done ++ [e] :=
      insertSorted_last fun d hd => (List.pairwise_append.mp hm).2.2 d hd e List.mem_cons_self
    rw [List.map_cons, List.foldlM_cons, he, hlast, Option.bind_eq_bind, Option.bind_some, ih hrest _ (by simpa using hm)]
    simp

/-- The keys of a map are texts in their order. -/
def InOrder (m : List (String × β)) : Prop := m.Pairwise fun a b => a.1 < b.1

/-- Order is kept: the new entry stands behind the smaller keys and in front of the larger ones, and an equal key is replaced.
-/
theorem InOrder.insertSorted {m : List (String × β)} (h : InOrder m) (key : String) (value : β) :
    InOrder (insertSorted textBefore key value m) := by
  induction m with
  | nil => exact List.pairwise_singleton _ _
  | cons e m ih =>
    obtain ⟨k, v⟩ := e
    obtain ⟨hk, hm⟩ := List.pairwise_cons.mp h
    rw [Json.insertSorted]
    split
    · next hsame => exact List.pairwise_cons.mpr ⟨hsame ▸ hk, hm⟩
    · next hother =>
      split
      · next hlt =>
        have hlt : key < k := of_decide_eq_true hlt
        exact List.pairwise_cons.mpr ⟨List.forall_mem_cons.mpr ⟨hlt, fun e he => String.lt_trans hlt (hk e he)⟩, h⟩
      · next hle =>
        -- the order is linear, so what is neither equal nor before is behind
        have hle : k ≤ key := String.not_lt.mp fun hlt => hle (decide_eq_true hlt)
        refine List.pairwise_cons.mpr ⟨fun e he => ?_, ih hm⟩
        rcases mem_of_mem_insertSorted he with rfl | he
        · exact Std.lt_of_le_of_ne hle hother
        · exact hk e he

theorem InOrder.map_snd {m : List (String × β)} (h : InOrder m) (f : β → γ) : InOrder (m.map fun e => (e.1, f e.2)) :=
  List.pairwise_map.mpr h

theorem InOrder.increasing {m : List (String × β)} (h : InOrder m) : Increasing textBefore m :=
  h.imp fun hlt => ⟨fun heq => String.lt_irrefl _ (heq ▸ hlt), decide_eq_false (String.lt_asymm hlt)⟩

end LintPlan.Json
