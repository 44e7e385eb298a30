import Mathlib.Data.List.Forall2
import Mathlib.Data.Option.Basic
import LintPlan.Json.Typed
import LintPlan.Proofs.Json.Continuing

/-!
# Typed readers in the midst of a text

The readers of typed data go on in a longer text as the readers of scalars do (`Proofs/Json/Continuing`). A list or a
record ends with a bracket of its own, so that nothing has to be left behind it:

* **`list_closes`**, **`record_closes`** — lists and records, given that their items and fields go on. The fields of the
  two records may differ in their fuel, which `Field.ReadsOn` allows for.
* **`entries_closes`** — the crux: a record written as an object, by induction on the fuel.
-/

namespace LintPlan.Json.Reading

open Cursor

variable {α σ : Type} {more : List Char}

/-! ## §1 — scalars of a type

Each reader looks at the first character behind blanks. In a longer text it is the same one, and so the same case is taken. -/

/-- A text closes itself with its quote. -/
theorem text_closes : Closes more text text := by
  intro c s c' h
  unfold text at h ⊢
  rcases c.skipBlanks_cases with hnil | ⟨x, rest, p, hskip, hmore⟩
  · simp [hnil] at h
  · refine ⟨rest_of_skipBlanks (by simp [hskip]), ?_⟩
    rw [hskip] at h
    rw [hmore]
    dsimp only at h ⊢
    split at h
    · next hc =>
      cases hc
      exact (readText_closes h).2
    · cases h

/-- A truth value is a word, and a word is read letter by letter. -/
theorem bool_readsOn : ReadsOn more bool bool := by
  intro c b c' h hrest
  unfold bool at h ⊢
  rcases c.skipBlanks_cases with hnil | ⟨x, rest, p, hskip, hmore⟩
  · simp [hnil] at h
  · refine ⟨rest_of_skipBlanks (by simp [hskip]), ?_⟩
    rw [hskip] at h
    rw [hmore]
    dsimp only at h ⊢
    split at h
    · next hc =>
      cases hc
      exact ((passWord_passesOn _).readsOn _ h hrest).2
    · next hc =>
      cases hc
      exact ((passWord_passesOn _).readsOn _ h hrest).2
    · cases h

/-- A number is read on, and its bounds do not depend on what follows. -/
theorem nat_readsOn (limit : Nat) (wanted : String) : ReadsOn more (nat limit wanted) (nat limit wanted) := by
  intro c n c' h hrest
  unfold nat at h ⊢
  dsimp only at h ⊢
  split at h
  · next i d hd =>
    split at h
    · next hi =>
      cases h
      obtain ⟨hc, hscalar⟩ := (readScalar_readsOn : ReadsOn more _ _) hd hrest
      refine ⟨rest_of_skipBlanks hc, ?_⟩
      rw [skipBlanks_followedBy hc, hscalar]
      dsimp only
      rw [if_pos hi]
    · cases h
  · cases h

/-- Likewise any number, whole or not. -/
theorem float_readsOn : ReadsOn more float float := by
  intro c x c' h hrest
  unfold float at h ⊢
  dsimp only at h ⊢
  split at h
  · next i d hd =>
    cases h
    obtain ⟨hc, hscalar⟩ := (readScalar_readsOn : ReadsOn more _ _) hd hrest
    refine ⟨rest_of_skipBlanks hc, ?_⟩
    rw [skipBlanks_followedBy hc, hscalar]
  · next y d hd =>
    cases h
    obtain ⟨hc, hscalar⟩ := (readScalar_readsOn : ReadsOn more _ _) hd hrest
    refine ⟨rest_of_skipBlanks hc, ?_⟩
    rw [skipBlanks_followedBy hc, hscalar]
  · cases h

/-! ## §2 — options and lists

Readers built from others read on, or close, if those do. -/

section
variable {r r' : Reading α} {fuel fuel' : Nat}

/-- A null is a word; anything else is read as before. -/
theorem option_readsOn (hr : ReadsOn more r r') : ReadsOn more (option r) (option r') := by
  intro c v c' h hrest
  unfold option at h ⊢
  rcases c.skipBlanks_cases with hnil | ⟨x, rest, p, hskip, hmore⟩
  · dsimp only at h
    simp only [hnil] at h
    exact absurd hnil (hr.map some h hrest).1
  · refine ⟨rest_of_skipBlanks (by simp [hskip]), ?_⟩
    rw [hskip] at h
    rw [hmore]
    dsimp only at h ⊢
    split at h
    · next hc =>
      cases hc
      exact ((passWord_passesOn _).readsOn _ h hrest).2
    · next hn =>
      -- no null: the longer text has no null there either, as it starts with the same character
      have hread := (hr.map some h hrest).2
      simp only [followedBy_cons] at hread
      split
      · next hc => exact absurd (List.cons.inj hc).1 fun he => hn rest (he ▸ rfl)
      · exact hread

/-- The loop over items closes with its bracket. Induction on the fuel, of which the longer text may have more. -/
theorem items_closes (hr : ReadsOn more r r') (hfuel : fuel ≤ fuel') (first : Bool) (done : List α) :
    Closes more (items r fuel first done) (items r' fuel' first done) := by
  induction fuel generalizing fuel' first done with
  | zero =>
    intro c v c' h
    cases h
  | succ fuel ih =>
    obtain ⟨fuel', rfl⟩ : ∃ n, fuel' = n + 1 := ⟨fuel' - 1, by omega⟩
    have hfuel : fuel ≤ fuel' := by omega
    intro c v c' h
    rw [items] at h ⊢
    split at h
    · cases h
    · next d hd =>
      cases h
      obtain ⟨hc, hdrest, hnext⟩ := nextItem_followedBy more hd
      rw [hnext]
      exact ⟨hc, by rw [← advance_followedBy hdrest]⟩
    · next d hd =>
      obtain ⟨hc, hdrest, hnext⟩ := nextItem_followedBy more hd
      refine ⟨hc, ?_⟩
      rw [hnext]
      split at h
      · cases h
      · next x e he =>
        -- the rest of the list starts inside the text, so that the item ends inside
        obtain ⟨herest, hitems⟩ := ih hfuel _ _ h
        dsimp only
        rw [(hr he herest).2]
        exact hitems

/-- **A list reads the same in a longer text.** -/
theorem list_closes (hr : ReadsOn more r r') (hfuel : fuel ≤ fuel') : Closes more (list fuel r) (list fuel' r') := by
  intro c v c' h
  unfold list at h ⊢
  rcases c.skipBlanks_cases with hnil | ⟨x, rest, p, hskip, hmore⟩
  · simp [hnil] at h
  · refine ⟨rest_of_skipBlanks (by simp [hskip]), ?_⟩
    rw [hskip] at h
    rw [hmore]
    dsimp only at h ⊢
    split at h
    · next hc =>
      cases hc
      exact (items_closes hr hfuel true [] h).2
    · cases h

end

/-! ## §3 — fields

Two lists of fields that match place by place, the second made for more fuel. -/

/-- Two fields that differ in how they are read at most, and of which the second one goes on in a longer text. -/
structure Field.ReadsOn (more : List Char) (f g : Field σ) : Prop where
  name : f.name = g.name
  aliases : f.aliases = g.aliases
  required : f.required = g.required
  read : Json.ReadsOn more f.read g.read

section
variable {r r' : Reading α} {fields fields' : List (Field σ)}

/-- A field that may be absent is read on if its value is. -/
theorem Field.optional_readsOn (hr : Json.ReadsOn more r r') (name : String) (aliases : List String)
    (set : σ → α → σ) : (Field.optional name aliases r set).ReadsOn more (Field.optional name aliases r' set) :=
  ⟨rfl, rfl, rfl, hr.map fun v s => set s v⟩

/-- Likewise one that has to be there. -/
theorem Field.needed_readsOn (hr : Json.ReadsOn more r r') (name : String) (aliases : List String)
    (set : σ → α → σ) : (Field.needed name aliases r set).ReadsOn more (Field.needed name aliases r' set) :=
  ⟨rfl, rfl, rfl, hr.map fun v s => set s v⟩

/-- The same key finds fields at the same place of both lists. -/
theorem fieldOf?_readsOn (h : List.Forall₂ (Field.ReadsOn more) fields fields') (key : String) :
    Option.Rel (Field.ReadsOn more) (fieldOf? fields key) (fieldOf? fields' key) := by
  induction h with
  | nil => exact .none
  | cons hf _ ih =>
    unfold fieldOf? at ih ⊢
    rw [List.find?_cons, List.find?_cons, hf.name, hf.aliases]
    split
    · exact .some hf
    · exact ih

/-- What was seen is the same, so what is missing is. -/
theorem none_missing (h : List.Forall₂ (Field.ReadsOn more) fields fields') {seen : List String}
    (hnone : fields.find? (fun f => f.required && !seen.contains f.name) = none) :
    fields'.find? (fun f => f.required && !seen.contains f.name) = none := by
  induction h with
  | nil => rfl
  | cons hf _ ih =>
    rw [List.find?_cons] at hnone ⊢
    rw [← hf.name, ← hf.required]
    split at hnone
    · cases hnone
    · exact ih hnone

/-! ## §4 — records

A record may be an object or a list. The first is a loop over keys, the second goes along the fields. -/

/-- **The entries of an object read the same in a longer text.** Induction on the fuel; an entry is passed over or read
by a field, and ends inside the text because there is a closing brace to come. -/
theorem entries_closes (hfields : List.Forall₂ (Field.ReadsOn more) fields fields') {fuel fuel' : Nat}
    (hfuel : fuel ≤ fuel') (first : Bool) (seen : List String) (s : σ) :
    Closes more (entries fields fuel first seen s) (entries fields' fuel' first seen s) := by
  induction fuel generalizing fuel' first seen s with
  | zero =>
    intro c v c' h
    cases h
  | succ fuel ih =>
    obtain ⟨fuel', rfl⟩ : ∃ n, fuel' = n + 1 := ⟨fuel' - 1, by omega⟩
    have hfuel : fuel ≤ fuel' := by omega
    intro c v c' h
    rw [entries] at h ⊢
    split at h
    · cases h
    · next d hd =>
      obtain ⟨hc, hdrest, hnext⟩ := nextEntry_followedBy more hd
      refine ⟨hc, ?_⟩
      rw [hnext]
      split at h
      · cases h
      · next hnone =>
        cases h
        dsimp only
        rw [none_missing hfields hnone, advance_followedBy hdrest]
    · next d hd =>
      obtain ⟨hc, hdrest, hnext⟩ := nextEntry_followedBy more hd
      refine ⟨hc, ?_⟩
      rw [hnext]
      split at h
      · cases h
      · next key k hk =>
        dsimp only
        rw [((readText_closes : Closes more _ _) hk).2]
        dsimp only
        -- both readers know the key or neither does
        have hfield := fieldOf?_readsOn hfields key
        split at h
        · next hnone =>
          rw [hnone] at hfield
          cases hf' : fieldOf? fields' key with
          | some f' => rw [hf'] at hfield; cases hfield
          | none =>
            split at h
            · cases h
            · next e he =>
              obtain ⟨a, ha, hpass⟩ := bind_eq_ok he
              obtain ⟨herest, hentries⟩ := ih hfuel _ _ _ h
              -- the value of an unknown key is passed over in both
              have hvalue : (passColon (k.followedBy more)).bind (passValue fuel') = .ok (e.followedBy more) := by
                rw [passColon_followedBy ha]
                exact (passValue_passesOn hfuel hpass herest).2
              dsimp only
              rw [hvalue]
              exact hentries
        · next f hsome =>
          rw [hsome] at hfield
          cases hf' : fieldOf? fields' key with
          | none => rw [hf'] at hfield; cases hfield
          | some f' =>
            rw [hf'] at hfield
            obtain ⟨hf⟩ := hfield
            split at h
            · cases h
            · next hseen =>
              split at h
              · cases h
              · next set e he =>
                obtain ⟨a, ha, hread⟩ := bind_eq_ok he
                obtain ⟨herest, hentries⟩ := ih hfuel _ _ _ h
                have hvalue : (passColon (k.followedBy more)).bind f'.read = .ok (set, e.followedBy more) := by
                  rw [passColon_followedBy ha]
                  exact (hf.read hread herest).2
                -- a known key is marked as seen under the same name
                rw [hf.name] at hseen hentries
                dsimp only
                rw [if_neg hseen, hvalue]
                exact hentries

/-- A record written as a list ends with its bracket. -/
theorem endOfFields_closes (s : σ) : Closes more (endOfFields s) (endOfFields s) := by
  intro c v c' h
  unfold endOfFields at h ⊢
  rcases c.skipBlanks_cases with hnil | ⟨x, rest, p, hskip, hmore⟩
  · simp [hnil] at h
  · refine ⟨rest_of_skipBlanks (by simp [hskip]), ?_⟩
    rw [hskip] at h
    rw [hmore]
    dsimp only at h ⊢
    split at h
    · cases h
    · next hc =>
      cases hc
      cases h
      rfl
    · cases h
    · cases h

/-- Its values are read in the order of the fields, one after the other. -/
theorem inOrder_closes (hfields : List.Forall₂ (Field.ReadsOn more) fields fields') (wanted wanted' : String)
    (read : Nat) (first : Bool) (s : σ) :
    Closes more (inOrder wanted fields read first s) (inOrder wanted' fields' read first s) := by
  induction hfields generalizing read first s with
  | nil => exact endOfFields_closes s
  | cons hf _ ih =>
    intro c v c' h
    rw [inOrder] at h ⊢
    split at h
    · cases h
    · next d hd =>
      obtain ⟨hc, hdrest, hnext⟩ := nextItem_followedBy more hd
      refine ⟨hc, ?_⟩
      rw [hnext]
      split at h
      · cases h
      · next hreq =>
        rw [hf.required] at hreq
        dsimp only
        rw [if_neg hreq]
        exact (ih _ _ _ h).2
    · next d hd =>
      obtain ⟨hc, hdrest, hnext⟩ := nextItem_followedBy more hd
      refine ⟨hc, ?_⟩
      rw [hnext]
      split at h
      · cases h
      · next set e he =>
        obtain ⟨herest, hrest⟩ := ih _ _ _ h
        dsimp only
        rw [(hf.read he herest).2]
        exact hrest

/-- **A record reads the same in a longer text**, be it written as an object or as a list. -/
theorem record_closes (hfields : List.Forall₂ (Field.ReadsOn more) fields fields') {fuel fuel' : Nat}
    (hfuel : fuel ≤ fuel') (wanted : String) (s : σ) :
    Closes more (record fuel wanted fields s) (record fuel' wanted fields' s) := by
  intro c v c' h
  unfold record at h ⊢
  rcases c.skipBlanks_cases with hnil | ⟨x, rest, p, hskip, hmore⟩
  · simp [hnil] at h
  · refine ⟨rest_of_skipBlanks (by simp [hskip]), ?_⟩
    rw [hskip] at h
    rw [hmore]
    dsimp only at h ⊢
    split at h
    · next hc =>
      cases hc
      exact (inOrder_closes hfields _ _ 0 true s h).2
    · next hc =>
      cases hc
      exact (entries_closes hfields hfuel true [] s h).2
    · cases h

end

end LintPlan.Json.Reading
