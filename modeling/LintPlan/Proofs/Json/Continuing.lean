import LintPlan.Json.Passing
import LintPlan.Json.Reader

/-!
# JSON in the midst of a text

A reader looks at a text from the front. Whatever it has gone over when it stops inside the text, it goes over in the
same way if more text stands behind, and if it is given more fuel. "Inside" matters for numbers only: `12` at the end
of a text is the front part of `123` in a longer one.

* **`ReadsOn`**, **`PassesOn`** — what one function does, another one does with more text behind, as long as something
  is left when it stops. The two functions differ at most in their fuel.
* **`Closes`** — the same without that proviso, for what ends with a character of its own (texts; lists and records in
  `Proofs/Json/Records`).
* **`readScalar_readsOn`**, **`passValue_passesOn`** — scalars, and whole values that nobody asks for. The crux of the
  latter is `passOpen_passesOn`, by induction on the fuel.
-/

namespace LintPlan.Json

variable {α β : Type} {more : List Char} {c c' : Cursor}

/-! ## §1 — cursors

A cursor is moved by looking at the front of what is left. As long as something is left, more text behind is not seen. -/

namespace Cursor

/-- The same place in the text that goes on with `more`. -/
def followedBy (c : Cursor) (more : List Char) : Cursor := ⟨c.rest ++ more, c.position⟩

@[simp]
theorem followedBy_cons (x : Char) (rest : List Char) (p : Position) :
    (⟨x :: rest, p⟩ : Cursor).followedBy more = ⟨x :: (rest ++ more), p⟩ := rfl

theorem advance_followedBy (h : c.rest ≠ []) : (c.followedBy more).advance = c.advance.followedBy more := by
  obtain ⟨_ | ⟨x, rest⟩, p⟩ := c
  · exact absurd rfl h
  · rfl

/-- Blanks that end inside the text end at the same place with more text behind. -/
theorem afterBlanks_append {p : Position} {cs : List Char} (h : (afterBlanks p cs).rest ≠ []) :
    afterBlanks p (cs ++ more) = (afterBlanks p cs).followedBy more := by
  induction cs generalizing p with
  | nil => exact absurd rfl h
  | cons x cs ih =>
    rw [afterBlanks] at h
    rw [List.cons_append, afterBlanks, afterBlanks]
    split
    · next hx =>
      rw [if_pos hx] at h
      exact ih h
    · rfl

theorem skipBlanks_followedBy (h : c.skipBlanks.rest ≠ []) :
    (c.followedBy more).skipBlanks = c.skipBlanks.followedBy more := afterBlanks_append h

theorem rest_of_skipBlanks (h : c.skipBlanks.rest ≠ []) : c.rest ≠ [] := by
  intro hnil
  apply h
  rw [skipBlanks, hnil]
  rfl

/-- Blanks reach to the end of the text, or the character behind them is the same with more text behind. -/
theorem skipBlanks_cases (c : Cursor) : c.skipBlanks.rest = [] ∨
    ∃ x rest p, c.skipBlanks = ⟨x :: rest, p⟩ ∧ ∀ more, (c.followedBy more).skipBlanks = ⟨x :: (rest ++ more), p⟩ := by
  cases hrest : c.skipBlanks.rest with
  | nil => exact .inl rfl
  | cons x rest =>
    have hskip : c.skipBlanks = ⟨x :: rest, c.skipBlanks.position⟩ := by rw [← hrest]
    refine .inr ⟨x, rest, c.skipBlanks.position, hskip, fun more => ?_⟩
    rw [skipBlanks_followedBy (by simp [hrest]), hskip]
    rfl

end Cursor

open Cursor

/-! ## §2 — what stands between values

Colons, commas and brackets end by themselves, so that nothing has to be left behind them. -/

theorem passColon_followedBy (h : passColon c = .ok c') : passColon (c.followedBy more) = .ok (c'.followedBy more) := by
  unfold passColon at h ⊢
  rcases c.skipBlanks_cases with hnil | ⟨x, rest, p, hskip, hmore⟩
  · simp [hnil] at h
  · rw [hskip] at h
    rw [hmore]
    grind [advance, followedBy]

/-- Whether there is one more item does not depend on what stands behind the place where the reader stops. It has read a
character, so something was left, and it stops in front of one, so something is left. -/
theorem nextItem_followedBy (more : List Char) {first there : Bool} (h : nextItem first c = .ok (there, c')) :
    c.rest ≠ [] ∧ c'.rest ≠ [] ∧ nextItem first (c.followedBy more) = .ok (there, c'.followedBy more) := by
  unfold nextItem at h ⊢
  rcases c.skipBlanks_cases with hnil | ⟨x, rest, p, hskip, hmore⟩
  · simp [hnil] at h
  · refine ⟨rest_of_skipBlanks (by simp [hskip]), ?_⟩
    rw [hskip] at h
    rw [hmore]
    dsimp only [advance] at h ⊢
    -- behind a comma there may be blanks again
    rcases (⟨rest, p.after x⟩ : Cursor).skipBlanks_cases with hnil | ⟨y, rest', q, hskip', hmore'⟩
    · grind [followedBy]
    · have hnext : (⟨rest ++ more, p.after x⟩ : Cursor).skipBlanks = ⟨y :: (rest' ++ more), q⟩ := hmore' more
      rw [hskip'] at h
      rw [hnext]
      grind [followedBy]

/-- Likewise whether there is one more entry. -/
theorem nextEntry_followedBy (more : List Char) {first there : Bool} (h : nextEntry first c = .ok (there, c')) :
    c.rest ≠ [] ∧ c'.rest ≠ [] ∧ nextEntry first (c.followedBy more) = .ok (there, c'.followedBy more) := by
  unfold nextEntry at h ⊢
  rcases c.skipBlanks_cases with hnil | ⟨x, rest, p, hskip, hmore⟩
  · simp [hnil] at h
  · refine ⟨rest_of_skipBlanks (by simp [hskip]), ?_⟩
    rw [hskip] at h
    rw [hmore]
    dsimp only [advance] at h ⊢
    rcases (⟨rest, p.after x⟩ : Cursor).skipBlanks_cases with hnil | ⟨y, rest', q, hskip', hmore'⟩
    · grind [followedBy]
    · have hnext : (⟨rest ++ more, p.after x⟩ : Cursor).skipBlanks = ⟨y :: (rest' ++ more), q⟩ := hmore' more
      rw [hskip'] at h
      rw [hnext]
      grind [followedBy]

/-! ## §3 — functions that go on in a longer text

Each notion is a property of two functions, of which the second one may have more fuel. They are closed under doing one thing
after the other, so that the lemmas on readers follow how the readers are put together. -/

/-- What `f` reads inside a text, `g` reads with more text behind. -/
def ReadsOn (more : List Char) (f g : Reading α) : Prop :=
  ∀ ⦃c v c'⦄, f c = .ok (v, c') → c'.rest ≠ [] →
    c.rest ≠ [] ∧ g (c.followedBy more) = .ok (v, c'.followedBy more)

/-- What `f` goes over inside a text, `g` goes over with more text behind. -/
def PassesOn (more : List Char) (f g : Cursor → Except Fault Cursor) : Prop :=
  ∀ ⦃c c'⦄, f c = .ok c' → c'.rest ≠ [] → c.rest ≠ [] ∧ g (c.followedBy more) = .ok (c'.followedBy more)

/-- What `f` reads, be it up to the end of a text, `g` reads with more text behind. -/
def Closes (more : List Char) (f g : Reading α) : Prop :=
  ∀ ⦃c v c'⦄, f c = .ok (v, c') → c.rest ≠ [] ∧ g (c.followedBy more) = .ok (v, c'.followedBy more)

theorem Closes.readsOn {f g : Reading α} (h : Closes more f g) : ReadsOn more f g := fun _ _ _ hf _ => h hf

theorem map_eq_ok {f : α → β} {e : Except Fault α} {b : β} (h : e.map f = .ok b) : ∃ a, e = .ok a ∧ f a = b := by
  cases e with
  | error fault => cases h
  | ok a =>
    cases h
    exact ⟨a, rfl, rfl⟩

theorem bind_eq_ok {f : α → Except Fault β} {e : Except Fault α} {b : β} (h : e.bind f = .ok b) :
    ∃ a, e = .ok a ∧ f a = .ok b := by
  cases e with
  | error fault => cases h
  | ok a => exact ⟨a, rfl, h⟩

/-- If the second function stops inside the text, the first one does. -/
theorem ReadsOn.bind {f f' : Reading α} {g g' : α → Reading β} (hf : ReadsOn more f f')
    (hg : ∀ a, ReadsOn more (g a) (g' a)) :
    ReadsOn more (fun c => (f c).bind fun r => g r.1 r.2) (fun c => (f' c).bind fun r => g' r.1 r.2) := by
  intro c v c' h hrest
  obtain ⟨⟨a, d⟩, hfc, hgd⟩ := bind_eq_ok h
  obtain ⟨hd, hgd'⟩ := hg a hgd hrest
  obtain ⟨hc, hfc'⟩ := hf hfc hd
  refine ⟨hc, ?_⟩
  show (f' (c.followedBy more)).bind _ = _
  rw [hfc']
  exact hgd'

/-- What is made of the result plays no part. -/
theorem ReadsOn.map {f f' : Reading α} (hf : ReadsOn more f f') (k : α → β) :
    ReadsOn more (fun c => (f c).map fun r => (k r.1, r.2)) (fun c => (f' c).map fun r => (k r.1, r.2)) := by
  intro c v c' h hrest
  obtain ⟨⟨a, d⟩, hfc, hk⟩ := map_eq_ok h
  cases hk
  obtain ⟨hc, hfc'⟩ := hf hfc hrest
  refine ⟨hc, ?_⟩
  show (f' (c.followedBy more)).map _ = _
  rw [hfc']
  rfl

/-- Passing over something is reading it for a result that is known before. -/
theorem PassesOn.readsOn {f g : Cursor → Except Fault Cursor} (h : PassesOn more f g) (v : α) :
    ReadsOn more (fun c => (f c).map fun c => (v, c)) (fun c => (g c).map fun c => (v, c)) := by
  intro c w c' hf hrest
  obtain ⟨d, hd, hv⟩ := map_eq_ok hf
  cases hv
  obtain ⟨hc, hg⟩ := h hd hrest
  refine ⟨hc, ?_⟩
  show (g (c.followedBy more)).map _ = _
  rw [hg]
  rfl

/-! ## §4 — texts

The readers of texts go through their characters by recursion, and so do these inductions. -/

/-- The characters of a text up to its quote do not change with more text behind. One case for each kind of character. -/
theorem readChars_append {done chars cs : List Char} {p : Position} (h : readChars done p cs = .ok (chars, c')) :
    readChars done p (cs ++ more) = .ok (chars, c'.followedBy more) := by
  fun_induction readChars done p cs with
  | case2 done p rest =>
    cases h
    rfl
  | case6 done p a b c d n hn hsecond hfirst e f g h' rest m hm hm2 ih =>
    simp only [List.cons_append, readChars, hn, hm, hsecond, hfirst, hm2, if_true]
    exact ih h
  | case9 done p a b c d rest n hn hsecond hfirst ih =>
    simp only [List.cons_append, readChars, hn, hsecond, hfirst]
    exact ih h
  | case10 done p c rest hu x hx ih =>
    -- the escape is none with digits, so that more text cannot give it any
    have hne : c ≠ 'u' := by
      rintro rfl
      simp [simpleEscape] at hx
    simp only [List.cons_append]
    rw [readChars]
    · simp only [hx]
      exact ih h
    · intro a b c' d rest' he
      exact absurd he hne
  | case14 done p c rest hquote hu hescape hback hcontrol ih =>
    simp only [List.cons_append]
    rw [readChars]
    · rw [if_neg hback, if_neg hcontrol]
      exact ih h
    · exact hquote
    · intro a b c' d rest' he
      exact absurd he hback
    · intro c' rest' he
      exact absurd he hback
  | _ => cases h

/-- Likewise when nobody asks for the characters. -/
theorem passChars_append {cs : List Char} {p : Position} (h : passChars p cs = .ok c') :
    passChars p (cs ++ more) = .ok (c'.followedBy more) := by
  fun_induction passChars p cs with
  | case2 p rest =>
    cases h
    rfl
  | case4 p a b c d rest n hn ih =>
    simp only [List.cons_append, passChars, hn]
    exact ih h
  | case5 p c rest hu x hx ih =>
    have hne : c ≠ 'u' := by
      rintro rfl
      simp [simpleEscape] at hx
    simp only [List.cons_append]
    rw [passChars]
    · simp only [hx]
      exact ih h
    · intro a b c' d rest' he
      exact absurd he hne
  | case9 p c rest hquote hu hescape hback hcontrol ih =>
    simp only [List.cons_append]
    rw [passChars]
    · rw [if_neg hback, if_neg hcontrol]
      exact ih h
    · exact hquote
    · intro a b c' d rest' he
      exact absurd he hback
    · intro c' rest' he
      exact absurd he hback
  | _ => cases h

/-- A text ends with its own quote, so nothing has to be left behind it. -/
theorem readText_closes : Closes more readText readText := by
  intro c s c' h
  unfold readText at h ⊢
  obtain ⟨_ | ⟨x, rest⟩, p⟩ := c
  · simp [readChars] at h
  · dsimp only [List.tail_cons] at h
    split at h
    · next cs d hd =>
      cases h
      refine ⟨by simp, ?_⟩
      simp only [followedBy_cons, List.tail_cons]
      rw [readChars_append hd]
    · cases h

theorem passText_followedBy (more : List Char) (h : passText c = .ok c') :
    c.rest ≠ [] ∧ passText (c.followedBy more) = .ok (c'.followedBy more) := by
  unfold passText at h ⊢
  obtain ⟨_ | ⟨x, rest⟩, p⟩ := c
  · simp [passChars] at h
  · exact ⟨by simp, passChars_append h⟩

/-! ## §5 — numbers

A number has no end of its own. That something is left behind it means that the character that ended it was seen. -/

/-- A run of characters that ends inside a list ends there in a longer list too. -/
theorem takeWhile_dropWhile_append {p : α → Bool} {xs : List α} (ys : List α) (h : xs.dropWhile p ≠ []) :
    (xs ++ ys).takeWhile p = xs.takeWhile p ∧ (xs ++ ys).dropWhile p = xs.dropWhile p ++ ys := by
  induction xs with
  | nil => exact absurd rfl h
  | cons x xs ih =>
    by_cases hx : p x
    · rw [List.dropWhile_cons_of_pos hx] at h
      simp [hx, ih h]
    · simp [hx]

theorem passSign_followedBy (signs : List Char) (h : c.rest ≠ []) :
    passSign signs (c.followedBy more) = ((passSign signs c).1, (passSign signs c).2.followedBy more) := by
  obtain ⟨_ | ⟨x, rest⟩, p⟩ := c
  · exact absurd rfl h
  · simp only [followedBy_cons, passSign]
    split <;> rfl

theorem rest_of_passSign (signs : List Char) (h : (passSign signs c).2.rest ≠ []) : c.rest ≠ [] := by
  obtain ⟨_ | ⟨x, rest⟩, p⟩ := c
  · exact absurd rfl h
  · simp

/-- Digits are read on: the character that ended them is still there. -/
theorem readDigits_readsOn (atEnd : Cause) : ReadsOn more (readDigits atEnd) (readDigits atEnd) := by
  intro c v c' h hrest
  unfold readDigits at h ⊢
  dsimp only at h ⊢
  split at h
  · cases h
  · next hne =>
    cases h
    obtain ⟨htake, hdrop⟩ := takeWhile_dropWhile_append more hrest
    refine ⟨fun hnil => hne (by simp [hnil]), ?_⟩
    simp only [followedBy, htake, hdrop]
    rw [if_neg hne]

/-- So is the whole part, for which a zero in front of a digit is a fault. -/
theorem readWhole_readsOn (atEnd : Cause) : ReadsOn more (readWhole atEnd) (readWhole atEnd) := by
  intro c v c' h hrest
  obtain ⟨rest, p⟩ := c
  unfold readWhole at h ⊢
  split at h
  · next next rest' hc =>
    dsimp only at hc
    subst hc
    split at h
    · cases h
    · next hdigit =>
      cases h
      simp [followedBy, hdigit, advance]
  · next hother =>
    have hdigits := (readDigits_readsOn atEnd : ReadsOn more _ _) h hrest
    refine ⟨hdigits.1, ?_⟩
    split
    · next next rest' hc =>
      -- a zero at the end of the text would be all of it, and nothing would be left
      rcases rest with _ | ⟨x, _ | ⟨y, rest⟩⟩
      · exact absurd rfl hdigits.1
      · simp [followedBy] at hc
        obtain ⟨rfl, -⟩ := hc
        simp [readDigits] at h
        obtain ⟨-, rfl⟩ := h
        exact absurd rfl hrest
      · simp [followedBy] at hc
        exact absurd (by simp [hc]) (hother y rest)
    · exact hdigits.2

/-- So is the fraction, with or without a point. -/
theorem readFraction_readsOn (atEnd : Cause) : ReadsOn more (readFraction atEnd) (readFraction atEnd) := by
  intro c v c' h hrest
  unfold readFraction at h ⊢
  split at h
  · next d hd =>
    cases h
    have hc : c.rest ≠ [] := rest_of_passSign ['.'] (by rw [hd]; exact hrest)
    rw [passSign_followedBy _ hc, hd]
    exact ⟨hc, rfl⟩
  · next x d hd =>
    obtain ⟨hdrest, hmore⟩ := (readDigits_readsOn atEnd : ReadsOn more _ _).map some h hrest
    have hc : c.rest ≠ [] := rest_of_passSign ['.'] (by rw [hd]; exact hdrest)
    rw [passSign_followedBy _ hc, hd]
    exact ⟨hc, hmore⟩

/-- So is the exponent, with or without its mark and its sign. -/
theorem readExponent_readsOn (atEnd : Cause) : ReadsOn more (readExponent atEnd) (readExponent atEnd) := by
  intro c v c' h hrest
  unfold readExponent at h ⊢
  split at h
  · next d hd =>
    cases h
    have hc : c.rest ≠ [] := rest_of_passSign ['e', 'E'] (by rw [hd]; exact hrest)
    rw [passSign_followedBy _ hc, hd]
    exact ⟨hc, rfl⟩
  · next x d hd =>
    obtain ⟨hsrest, hmore⟩ := (readDigits_readsOn atEnd : ReadsOn more _ _).map
      (fun ds => some ((passSign ['+', '-'] d).1 == some '-', ds)) h hrest
    have hdrest : d.rest ≠ [] := rest_of_passSign _ hsrest
    have hc : c.rest ≠ [] := rest_of_passSign ['e', 'E'] (by rw [hd]; exact hdrest)
    rw [passSign_followedBy _ hc, hd]
    dsimp only
    rw [passSign_followedBy _ hdrest]
    exact ⟨hc, hmore⟩

/-- A number is read on part by part. -/
theorem readNumberText_readsOn (atEnd : Cause) : ReadsOn more (readNumberText atEnd) (readNumberText atEnd) := by
  intro c v c' h hrest
  have hparts (sign : Option Char) := (readWhole_readsOn atEnd : ReadsOn more _ _).bind fun whole =>
    (readFraction_readsOn atEnd).bind fun fraction =>
      (readExponent_readsOn atEnd).map fun exponent => NumberText.mk sign.isSome whole fraction exponent
  obtain ⟨hsrest, hmore⟩ := hparts (passSign ['-'] c).1 (c := (passSign ['-'] c).2) h hrest
  have hc := rest_of_passSign _ hsrest
  unfold readNumberText
  rw [passSign_followedBy _ hc]
  exact ⟨hc, hmore⟩

/-- Its value is a matter of its text alone. -/
theorem readNumber_readsOn : ReadsOn more readNumber readNumber := by
  intro c j c' h hrest
  obtain ⟨⟨t, d⟩, ht, hvalue⟩ := bind_eq_ok h
  dsimp only at hvalue
  split at hvalue
  · next j hj =>
    cases hvalue
    obtain ⟨hc, hmore⟩ := (readNumberText_readsOn _ : ReadsOn more _ _) ht hrest
    refine ⟨hc, ?_⟩
    show (readNumberText _ (c.followedBy more)).bind _ = _
    rw [hmore]
    simp only [Except.bind, hj]
  · cases hvalue

theorem passNumber_passesOn : PassesOn more passNumber passNumber := by
  intro c c' h hrest
  obtain ⟨⟨t, d⟩, hd, rfl⟩ := map_eq_ok h
  obtain ⟨hc, hmore⟩ := readNumberText_readsOn .badNumber hd hrest
  refine ⟨hc, ?_⟩
  rw [passNumber, hmore]
  rfl

/-! ## §6 — scalars

The other scalars are words and texts. -/

/-- A word is passed over character by character. -/
theorem passWord_followedBy {word : List Char} (h : passWord word c = .ok c') :
    passWord word (c.followedBy more) = .ok (c'.followedBy more) := by
  induction word generalizing c with
  | nil =>
    cases h
    rfl
  | cons w word ih =>
    rw [passWord] at h ⊢
    obtain ⟨_ | ⟨x, rest⟩, p⟩ := c
    · simp at h
    · simp only [followedBy_cons] at h ⊢
      split at h
      · next hx =>
        rw [if_pos hx]
        exact ih h
      · simp at h

/-- If something is left behind a word, something was left in front of it. -/
theorem passWord_passesOn (word : List Char) : PassesOn more (passWord word) (passWord word) := by
  intro c c' h hrest
  refine ⟨?_, passWord_followedBy h⟩
  rintro hnil
  cases word with
  | nil =>
    cases h
    exact hrest hnil
  | cons w word => simp [passWord, hnil] at h

/-- **Scalars are read on.** The first character decides which kind it is, and that character stays. -/
theorem readScalar_readsOn : ReadsOn more readScalar readScalar := by
  intro c j c' h hrest
  obtain ⟨_ | ⟨x, rest⟩, p⟩ := c
  · simp [readScalar] at h
  refine ⟨by simp, ?_⟩
  unfold readScalar at h ⊢
  simp only [followedBy_cons]
  split at h
  · simp_all
  · next hc =>
    cases hc
    exact ((passWord_passesOn _).readsOn _ h hrest).2
  · next hc =>
    cases hc
    exact ((passWord_passesOn _).readsOn _ h hrest).2
  · next hc =>
    cases hc
    exact ((passWord_passesOn _).readsOn _ h hrest).2
  · next hc =>
    cases hc
    exact (readText_closes.readsOn.map Json.str h hrest).2
  · next hc =>
    cases hc
    split at h
    · next hdigit =>
      have hnumber := ((readNumber_readsOn : ReadsOn more _ _) h hrest).2
      grind [followedBy]
    · cases h

/-- **Scalars are passed over** in the same way in a longer text. -/
theorem passScalar_passesOn : PassesOn more passScalar passScalar := by
  intro c c' h hrest
  obtain ⟨_ | ⟨x, rest⟩, p⟩ := c
  · simp [passScalar] at h
  refine ⟨by simp, ?_⟩
  unfold passScalar at h ⊢
  simp only [followedBy_cons]
  split at h
  · simp_all
  · next hc =>
    cases hc
    exact (passWord_passesOn _ h hrest).2
  · next hc =>
    cases hc
    exact (passWord_passesOn _ h hrest).2
  · next hc =>
    cases hc
    exact (passWord_passesOn _ h hrest).2
  · next hc =>
    cases hc
    exact (passText_followedBy more h).2
  · next hc =>
    cases hc
    split at h
    · next hdigit =>
      have hnumber := ((passNumber_passesOn : PassesOn more _ _) h hrest).2
      grind [followedBy]
    · cases h

/-! ## §7 — values that are passed over

A stack of what is open takes the place of recursion, so the induction is on the fuel. -/

/-- A key with its colon ends by itself. -/
theorem passKey_followedBy (h : passKey c = .ok c') :
    c.rest ≠ [] ∧ passKey (c.followedBy more) = .ok (c'.followedBy more) := by
  unfold passKey at h ⊢
  rcases c.skipBlanks_cases with hnil | ⟨x, rest, p, hskip, hmore⟩
  · simp [hnil] at h
  · refine ⟨rest_of_skipBlanks (by simp [hskip]), ?_⟩
    rw [hskip] at h
    rw [hmore]
    dsimp only at h ⊢
    split at h
    · simp_all
    · next hc =>
      cases hc
      obtain ⟨d, hd, hcolon⟩ := bind_eq_ok h
      have htext := (passText_followedBy more hd).2
      simp only [followedBy_cons] at htext
      rw [htext]
      exact passColon_followedBy hcolon
    · cases h

theorem passToValue_passesOn (top : Enclosure) : PassesOn more (passToValue top) (passToValue top) := by
  intro c c' h hrest
  cases top with
  | list =>
    cases h
    exact ⟨hrest, rfl⟩
  | object => exact passKey_followedBy h

/-- A value has a character. -/
theorem rest_of_passOpen {fuel : Nat} {stack : List Enclosure} (h : passOpen fuel .value stack c = .ok c') :
    c.rest ≠ [] := by
  cases fuel with
  | zero => cases h
  | succ fuel =>
    apply rest_of_skipBlanks
    intro hnil
    simp [passOpen, hnil, passScalar] at h

section
variable {fuel : Nat} {state : PassState}

theorem passOpen_closed (hstate : state ≠ .value) (c : Cursor) : passOpen (fuel + 1) state [] c = .ok c := by
  cases state with
  | value => exact absurd rfl hstate
  | opened => rfl
  | followed => rfl

/-- What happens inside a list or an object, before its first value or behind one. -/
theorem passOpen_enclosed (hstate : state ≠ .value) (top : Enclosure) (stack : List Enclosure) (c : Cursor) :
    passOpen (fuel + 1) state (top :: stack) c =
      let c := c.skipBlanks
      match c.rest with
      | [] => .error (c.fault (.cutOff top.part))
      | x :: _ =>
        if x = top.closing then passOpen fuel .followed stack c.advance
        else if state = .followed && x ≠ ',' then .error (c.faultAhead top.noComma)
        else
          match passToValue top (if state = .followed then c.advance else c) with
          | .error fault => .error fault
          | .ok c => passOpen fuel .value (top :: stack) c := by
  cases state with
  | value => exact absurd rfl hstate
  | opened => rfl
  | followed => rfl

end

/-- **Passing over what is open goes on in a longer text**, and with more fuel. Induction on the fuel, one case in front
of a value and one inside a list or an object. -/
theorem passOpen_passesOn {fuel fuel' : Nat} (hfuel : fuel ≤ fuel') (state : PassState) (stack : List Enclosure) :
    PassesOn more (passOpen fuel state stack) (passOpen fuel' state stack) := by
  induction fuel generalizing fuel' state stack with
  | zero =>
    intro c c' h
    simp [passOpen] at h
  | succ fuel ih =>
    obtain ⟨fuel', rfl⟩ : ∃ n, fuel' = n + 1 := ⟨fuel' - 1, by omega⟩
    have hfuel : fuel ≤ fuel' := by omega
    intro c c' h hrest
    by_cases hstate : state = .value
    · subst hstate
      refine ⟨rest_of_passOpen h, ?_⟩
      rw [passOpen] at h ⊢
      rcases c.skipBlanks_cases with hnil | ⟨x, rest, p, hskip, hmore⟩
      · simp [hnil, passScalar] at h
      rw [hskip] at h
      rw [hmore]
      dsimp only [advance] at h ⊢
      split at h
      · next hc =>
        cases hc
        exact (ih hfuel _ _ h hrest).2
      · next hc =>
        cases hc
        exact (ih hfuel _ _ h hrest).2
      · next hlist hobject =>
        split at h
        · cases h
        · next d hd =>
          obtain ⟨hdrest, hopen⟩ := ih hfuel _ _ h hrest
          have hscalar := ((passScalar_passesOn : PassesOn more _ _) hd hdrest).2
          simp only [followedBy_cons] at hscalar
          split
          · next hc => exact absurd (List.cons.inj hc).1 fun he => hlist rest (he ▸ rfl)
          · next hc => exact absurd (List.cons.inj hc).1 fun he => hobject rest (he ▸ rfl)
          · rw [hscalar]
            exact hopen
    · cases stack with
      | nil =>
        rw [passOpen_closed hstate] at h ⊢
        cases h
        exact ⟨hrest, rfl⟩
      | cons top stack =>
        rw [passOpen_enclosed hstate] at h ⊢
        rcases c.skipBlanks_cases with hnil | ⟨x, rest, p, hskip, hmore⟩
        · simp [hnil] at h
        refine ⟨rest_of_skipBlanks (by simp [hskip]), ?_⟩
        rw [hskip] at h
        rw [hmore]
        dsimp only at h ⊢
        split at h
        · next hx =>
          rw [if_pos hx]
          exact (ih hfuel _ _ h hrest).2
        · next hx =>
          rw [if_neg hx]
          split at h
          · cases h
          · next hcomma =>
            rw [if_neg hcomma]
            split at h
            · cases h
            · next d hd =>
              have hstart : (if state = .followed then (⟨x :: rest, p⟩ : Cursor).advance else ⟨x :: rest, p⟩).followedBy
                  more = if state = .followed then (⟨x :: (rest ++ more), p⟩ : Cursor).advance
                    else ⟨x :: (rest ++ more), p⟩ := by
                split <;> rfl
              have hto := ((passToValue_passesOn top : PassesOn more _ _) hd (rest_of_passOpen h)).2
              rw [hstart] at hto
              rw [hto]
              exact (ih hfuel _ _ h hrest).2

/-- **Whole values are passed over** in the same way in a longer text, and with more fuel. -/
theorem passValue_passesOn {fuel fuel' : Nat} (hfuel : fuel ≤ fuel') :
    PassesOn more (passValue fuel) (passValue fuel') := passOpen_passesOn hfuel .value []

end LintPlan.Json
