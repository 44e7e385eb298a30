import LintPlan.Proofs.Text.ReadingBack
import LintPlan.Text.Folding

/-!
# Words in any case

A word is found in a text whatever the case of its letters, as what stands there folds to the same letters. Folding is by
the whole of Unicode; the lower case that is shown in the end is that of ASCII letters only, so that the two can differ.

* **`afterWord_eq_some_iff`** — where a word is found.
* **`ascii_of_fold`** — two signs beyond ASCII fold to ASCII letters, the long s and the sign for kelvin.
* **`map_toLower_of_map_fold`** — without these two, what is found for a word of ASCII letters is the word in lower case.
-/

namespace LintPlan.Text

variable {word text more rest : List Char} {stop c : Char}

/-! ## §1 — letters

Two characters beyond ASCII fold to ASCII letters. Lower case and folding agree on all others that do. -/

/-- The sign beyond ASCII that folds to `s`. -/
def longS : Char := '\u017F'

/-- The sign beyond ASCII that folds to `k`. -/
def kelvin : Char := '\u212A'

theorem forall_ascii {P : Char → Prop} (h : ∀ n < 128, P (Char.ofNat n)) (hc : c.toNat < 128) : P c := by
  have := h c.toNat hc
  rwa [Char.ofNat_toNat] at this

theorem fold_of_lt (h : c.toNat < 128) : fold c = c.toLower := by
  simp [fold, h]

/-- Beyond ASCII lower case changes nothing. -/
theorem toLower_of_le (h : 128 ≤ c.toNat) : c.toLower = c := by
  unfold Char.toLower
  rw [dif_neg]
  rintro ⟨-, hhigh⟩
  have hle := UInt32.le_iff_toNat_le.mp hhigh
  have hval : c.toNat = c.val.toNat := rfl
  simp at hle
  omega

/-- Small letters of ASCII are in lower case. -/
theorem map_toLower_of_small (h : ∀ c ∈ text, c.toNat < 128 ∧ c.isUpper = false) : text.map Char.toLower = text := by
  have hsame : text.map Char.toLower = text.map id := by
    apply List.map_congr_left
    intro c hc
    exact forall_ascii (P := fun c => c.isUpper = false → c.toLower = c) (by decide) (h c hc).1 (h c hc).2
  rw [hsame, List.map_id]

/-- Lower case is another case of the same letter. -/
theorem fold_toLower (c : Char) : fold c.toLower = fold c := by
  by_cases hc : c.toNat < 128
  · have hlower := forall_ascii (P := fun c => c.toLower.toNat < 128 ∧ c.toLower.toLower = c.toLower) (by decide) hc
    rw [fold_of_lt hc, fold_of_lt hlower.1, hlower.2]
  · rw [toLower_of_le (by omega)]

/-- What a row of the table leads to: characters all along, and ASCII letters only for the two signs. -/
theorem foldings_target : ∀ r ∈ Ranges.foldings,
    (r.2.2.2 + (r.2.1 - r.1) < 0xD800 ∨ 0xDFFF < r.2.2.2 ∧ r.2.2.2 + (r.2.1 - r.1) < 0x110000) ∧
      (128 ≤ r.2.2.2 ∨ r.1 = r.2.1 ∧ (r.1 = longS.toNat ∨ r.1 = kelvin.toNat)) := by
  decide +kernel

/-- **Two signs beyond ASCII fold to ASCII letters.** -/
theorem ascii_of_fold (h : (fold c).toNat < 128) : c.toNat < 128 ∨ c = longS ∨ c = kelvin := by
  by_cases hc : c.toNat < 128
  · exact .inl hc
  right
  rw [fold, if_neg hc, foldByTable] at h
  split at h
  · next r hfind =>
    have hrange := List.find?_some hfind
    simp only [Bool.and_eq_true, decide_eq_true_eq] at hrange
    obtain ⟨⟨hfirst, hlast⟩, -⟩ := hrange
    obtain ⟨hvalid, htarget⟩ := foldings_target r (List.mem_of_find?_eq_some hfind)
    have htoNat : (Char.ofNat (r.2.2.2 + (c.toNat - r.1))).toNat = r.2.2.2 + (c.toNat - r.1) := by
      rw [Char.ofNat, dif_pos (show Nat.isValidChar _ by unfold Nat.isValidChar; omega)]
      rfl
    rw [htoNat] at h
    -- the range of the table has one character only, one of the two
    obtain ⟨hone, hsign | hsign⟩ := htarget.resolve_left (by omega)
    · exact .inl (Char.toNat_inj.mp (by omega))
    · exact .inr (Char.toNat_inj.mp (by omega))
  · rw [Char.ofNat_toNat] at h
    omega

/-- Without the two signs, folding to an ASCII letter is lower case. -/
theorem toLower_eq_fold (h : (fold c).toNat < 128) (hlong : c ≠ longS) (hkelvin : c ≠ kelvin) : c.toLower = fold c := by
  obtain hc | hc | hc := ascii_of_fold h
  · exact (fold_of_lt hc).symm
  · exact absurd hc hlong
  · exact absurd hc hkelvin

/-! ## §2 — words

A word is found at the front of a text letter by letter, whatever the case. -/

/-- Words in the same letters are found in the same texts. -/
theorem afterWord_isSome_congr {a b : List Char} (h : a.map fold = b.map fold) :
    (afterWord word a).isSome = (afterWord word b).isSome := by
  induction word generalizing a b with
  | nil => rfl
  | cons w word ih =>
    cases a with
    | nil =>
      rw [List.map_nil, eq_comm, List.map_eq_nil_iff] at h
      rw [h]
    | cons c a =>
      cases b with
      | nil => cases h
      | cons d b =>
        rw [List.map_cons, List.map_cons] at h
        obtain ⟨hfold, hrest⟩ := List.cons.inj h
        -- the letter of the word is compared with what the character folds to
        have hsame : sameLetter w c = sameLetter w d := by rw [sameLetter, sameLetter, hfold]
        rw [afterWord, afterWord, hsame]
        split
        · exact ih hrest
        · rfl

/-- A word is found in front of anything that follows it. -/
theorem afterWord_append (h : text.map fold = word.map fold) (more : List Char) :
    afterWord word (text ++ more) = some more := by
  induction word generalizing text with
  | nil =>
    rw [List.map_nil, List.map_eq_nil_iff] at h
    rw [h]
    rfl
  | cons w word ih =>
    cases text with
    | nil => cases h
    | cons c text =>
      rw [List.map_cons, List.map_cons] at h
      obtain ⟨hfold, hrest⟩ := List.cons.inj h
      have hsame : sameLetter w c = true := by rw [sameLetter, hfold, beq_self_eq_true]
      rw [List.cons_append, afterWord, if_pos hsame, ih hrest]

/-- **A word is found where its letters stand, in any case.** -/
theorem afterWord_eq_some_iff :
    afterWord word text = some rest ↔ ∃ found, text = found ++ rest ∧ found.map fold = word.map fold := by
  constructor
  · intro h
    induction word generalizing text with
    | nil =>
      cases h
      exact ⟨[], rfl, rfl⟩
    | cons w word ih =>
      cases text with
      | nil => cases h
      | cons c text =>
        rw [afterWord] at h
        split at h
        · next hsame =>
          obtain ⟨found, rfl, hfound⟩ := ih h
          have hletter : fold c = fold w := (beq_iff_eq.mp hsame).symm
          exact ⟨c :: found, rfl, by simp [hletter, hfound]⟩
        · cases h
  · rintro ⟨found, rfl, hfound⟩
    exact afterWord_append hfound rest

/-- A word ends before a character that is not in it. -/
theorem afterWord_isSome_of_append (hstop : ∀ w ∈ word, sameLetter w stop = false)
    (h : (afterWord word (text ++ stop :: more)).isSome = true) : (afterWord word text).isSome = true := by
  induction word generalizing text with
  | nil => rfl
  | cons w word ih =>
    obtain ⟨hw, hword⟩ := List.forall_mem_cons.mp hstop
    cases text with
    | nil =>
      rw [List.nil_append, afterWord, hw] at h
      cases h
    | cons c text =>
      rw [List.cons_append, afterWord] at h
      rw [afterWord]
      split at h
      · next hsame =>
        rw [if_pos hsame]
        exact ih hword h
      · cases h

/-- **What is found for a word of ASCII letters is the word in lower case**, unless one of the two signs is in it. -/
theorem map_toLower_of_map_fold (h : text.map fold = word.map fold) (hword : ∀ w ∈ word, w.toNat < 128)
    (hlong : longS ∉ text) (hkelvin : kelvin ∉ text) : text.map Char.toLower = word.map Char.toLower := by
  have hlower : word.map fold = word.map Char.toLower := List.map_congr_left fun w hw => fold_of_lt (hword w hw)
  rw [← hlower, ← h]
  apply List.map_congr_left
  intro c hc
  have hfold : fold c ∈ word.map Char.toLower := by
    rw [← hlower, ← h]
    exact List.mem_map_of_mem hc
  obtain ⟨w, hw, hwc⟩ := List.mem_map.mp hfold
  have hascii : (fold c).toNat < 128 := by
    rw [← hwc]
    exact forall_ascii (P := fun c => c.toLower.toNat < 128) (by decide) (hword w hw)
  exact toLower_eq_fold hascii (fun he => hlong (he ▸ hc)) fun he => hkelvin (he ▸ hc)

end LintPlan.Text
