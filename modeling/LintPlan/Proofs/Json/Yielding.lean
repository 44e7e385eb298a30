import LintPlan.Proofs.Json.Continuing
import LintPlan.Json.Typed

/-!
# What typed readers yield

A typed reader puts a value together from parts, each of them read by a reader of its own. What holds of the parts of
every text holds of the whole.

* **`Yields`** — whatever a reader reads has a property.
* **`Field.Keeps`** — reading a field keeps a property of the record that it is read into.
* **`record_yields`** — what the empty record has and every field keeps, the record has in the end. The entries of an
  object go by induction on the fuel, those of a list by induction on the fields.
-/

namespace LintPlan.Json.Reading

variable {α σ : Type}

/-- Whatever `r` reads has the property. -/
def Yields (P : α → Prop) (r : Reading α) : Prop := ∀ ⦃c v c'⦄, r c = .ok (v, c') → P v

theorem yields_true (r : Reading α) : Yields (fun _ => True) r := fun _ _ _ _ => trivial

/-! ## §1 — numbers and lists

A bound on single values passes to lists of them. -/

/-- A number that is read is at most the limit: a larger one is a fault. -/
theorem nat_yields (limit : Nat) (wanted : String) : Yields (· ≤ limit) (nat limit wanted) := by
  intro c n c' h
  unfold nat at h
  dsimp only at h
  split at h
  · split at h
    · next hi =>
      cases h
      have hle := hi.2
      show Int.toNat _ ≤ limit
      omega
    · cases h
  · cases h

section
variable {P : α → Prop} {r : Reading α}

/-- What holds of each item holds of all. Induction on the fuel, with the items that are done as part of the statement. -/
theorem items_yields (hr : Yields P r) (fuel : Nat) (first : Bool) {done : List α} (hdone : ∀ x ∈ done, P x) :
    Yields (fun xs => ∀ x ∈ xs, P x) (items r fuel first done) := by
  induction fuel generalizing first done with
  | zero =>
    intro c xs c' h
    cases h
  | succ fuel ih =>
    intro c xs c' h
    rw [items] at h
    split at h
    · cases h
    · cases h
      intro x hx
      exact hdone x (List.mem_reverse.1 hx)
    · split at h
      · cases h
      · next x d hd =>
        have hmore : ∀ y ∈ x :: done, P y := by
          intro y hy
          rcases List.mem_cons.1 hy with rfl | hy
          · exact hr hd
          · exact hdone y hy
        exact ih false hmore h

theorem list_yields (hr : Yields P r) (fuel : Nat) : Yields (fun xs => ∀ x ∈ xs, P x) (list fuel r) := by
  intro c xs c' h
  unfold list at h
  dsimp only at h
  split at h
  · exact items_yields hr fuel true (fun x hx => absurd hx List.not_mem_nil) h
  · cases h

end

/-! ## §2 — records

A record starts with defaults and is changed field by field. A property of the record that each field keeps holds at the end, in
both forms a record may be written in. -/

/-- Reading the field keeps a property of the record. -/
def Field.Keeps (P : σ → Prop) (f : Field σ) : Prop := Yields (fun set => ∀ s, P s → P (set s)) f.read

section
variable {P : σ → Prop} {Q : α → Prop} {r : Reading α} {fields : List (Field σ)}

theorem Field.optional_keeps (hr : Yields Q r) (name : String) (aliases : List String) {set : σ → α → σ}
    (hset : ∀ s v, P s → Q v → P (set s v)) : (Field.optional name aliases r set).Keeps P := by
  intro c f c' h s hs
  obtain ⟨⟨v, d⟩, hv, hf⟩ := map_eq_ok h
  cases hf
  exact hset s v hs (hr hv)

theorem Field.needed_keeps (hr : Yields Q r) (name : String) (aliases : List String) {set : σ → α → σ}
    (hset : ∀ s v, P s → Q v → P (set s v)) : (Field.needed name aliases r set).Keeps P :=
  Field.optional_keeps hr name aliases hset

/-- Whatever the order of the entries: each sets one field, and unknown keys set none. -/
theorem entries_yields (hfields : ∀ f ∈ fields, f.Keeps P) (fuel : Nat) (first : Bool) (seen : List String) {s : σ}
    (hs : P s) : Yields P (entries fields fuel first seen s) := by
  induction fuel generalizing first seen s with
  | zero =>
    intro c v c' h
    cases h
  | succ fuel ih =>
    intro c v c' h
    rw [entries] at h
    split at h
    · cases h
    · split at h
      · cases h
      · cases h
        exact hs
    · split at h
      · cases h
      · split at h
        · split at h
          · cases h
          · exact ih _ _ hs h
        · -- the key of a known field, whose value has just been read
          next f hf =>
          split at h
          · cases h
          · split at h
            · cases h
            · next set d hd =>
              -- the setter comes from the reader of the value
              obtain ⟨e, -, hread⟩ := bind_eq_ok hd
              have hkeeps : f.Keeps P := hfields f (List.mem_of_find?_eq_some hf)
              exact ih _ _ (hkeeps hread s hs) h

/-- Likewise for a record that is written as a list of its fields. Here the induction is on the fields. -/
theorem inOrder_yields (hfields : ∀ f ∈ fields, f.Keeps P) (wanted : String) (read : Nat) (first : Bool) {s : σ}
    (hs : P s) : Yields P (inOrder wanted fields read first s) := by
  induction fields generalizing read first s with
  | nil =>
    intro c v c' h
    rw [inOrder, endOfFields] at h
    dsimp only at h
    split at h
    · cases h
    · cases h
      exact hs
    · cases h
    · cases h
  | cons f fields ih =>
    have hrest : ∀ g ∈ fields, g.Keeps P := fun g hg => hfields g (List.mem_cons_of_mem _ hg)
    intro c v c' h
    rw [inOrder] at h
    split at h
    · cases h
    · split at h
      · cases h
      · exact ih hrest _ _ hs h
    · split at h
      · cases h
      · next set d hd =>
        have hkeeps : f.Keeps P := hfields f List.mem_cons_self
        exact ih hrest _ _ (hkeeps hd s hs) h

/-- **What the empty record has and every field keeps, the record has.** -/
theorem record_yields (hfields : ∀ f ∈ fields, f.Keeps P) (fuel : Nat) (wanted : String) {s : σ} (hs : P s) :
    Yields P (record fuel wanted fields s) := by
  intro c v c' h
  unfold record at h
  dsimp only at h
  split at h
  · exact inOrder_yields hfields _ 0 true hs h
  · exact entries_yields hfields fuel true [] hs h
  · cases h

end

end LintPlan.Json.Reading
