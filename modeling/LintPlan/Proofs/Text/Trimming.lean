import LintPlan.Text.Basic
import Mathlib.Data.List.TakeWhile

/-!
# Blanks around texts

A text is its trimmed form with blanks around it (`exists_blanks`), and blanks around a text do not matter for its trimmed form
(`trim_surround`). A character that is no blank keeps what is in front of it apart from what is behind it
(`trim_append_cons`), so that each side may be trimmed by itself.
-/

namespace LintPlan.Text

/-- Nothing but blanks. -/
def AllBlank (cs : List Char) : Prop := ∀ c ∈ cs, isBlank c = true

variable {a b cs : List Char} {c : Char}

/-! ## §1 — blanks outside

Blanks around a text do not matter. -/

/-- Blanks in front are taken away. -/
theorem trimStart_append (ha : AllBlank a) (cs : List Char) : trimStart (a ++ cs) = trimStart cs :=
  List.dropWhile_append_of_pos ha

/-- So are blanks behind. -/
theorem trimEnd_append (hb : AllBlank b) (cs : List Char) : trimEnd (cs ++ b) = trimEnd cs := by
  have hrev : ∀ c ∈ b.reverse, isBlank c = true := fun c hc => hb c (List.mem_reverse.mp hc)
  rw [trimEnd, dropEndWhile, List.reverse_append, List.dropWhile_append_of_pos hrev]
  rfl

/-- Also by trimming at both ends, even if nothing else is left. -/
theorem trim_append (hb : AllBlank b) (cs : List Char) : trim (cs ++ b) = trim cs := by
  have hnone : trimStart b = [] := List.dropWhile_eq_nil_iff.mpr hb
  rw [trim, trim, trimStart, List.dropWhile_append]
  split
  · -- nothing is left of the text, nor of what is behind it
    next hempty =>
    have htext : trimStart cs = [] := List.isEmpty_iff.mp hempty
    show trimEnd (trimStart b) = trimEnd (trimStart cs)
    rw [hnone, htext]
  · exact trimEnd_append hb _

/-- **Blanks around a text do not matter** for its trimmed form. -/
theorem trim_surround (ha : AllBlank a) (hb : AllBlank b) (cs : List Char) : trim (a ++ cs ++ b) = trim cs := by
  rw [trim_append hb, trim, trimStart_append ha]
  rfl

/-- **A text is its trimmed form with blanks around it.** -/
theorem exists_blanks (cs : List Char) : ∃ a b, AllBlank a ∧ AllBlank b ∧ cs = a ++ trim cs ++ b := by
  have hall : ∀ xs : List Char, AllBlank (xs.takeWhile isBlank) := fun xs c hc => List.mem_takeWhile_imp hc
  refine ⟨cs.takeWhile isBlank, ((trimStart cs).reverse.takeWhile isBlank).reverse, hall cs, ?_, ?_⟩
  · intro c hc
    exact hall _ c (List.mem_reverse.mp hc)
  · -- what is dropped at the end is what is taken of the text turned around
    have hend : trim cs ++ ((trimStart cs).reverse.takeWhile isBlank).reverse = trimStart cs := by
      rw [trim, trimEnd, dropEndWhile, ← List.reverse_append, List.takeWhile_append_dropWhile, List.reverse_reverse]
    rw [List.append_assoc, hend]
    exact List.takeWhile_append_dropWhile.symm

theorem trim_trim (cs : List Char) : trim (trim cs) = trim cs := by
  obtain ⟨a, b, ha, hb, hcs⟩ := exists_blanks cs
  calc trim (trim cs) = trim (a ++ trim cs ++ b) := (trim_surround ha hb _).symm
    _ = trim cs := by rw [← hcs]

/-! ## §2 — a character that is no blank

The text around such a character is trimmed on each side alone. -/

/-- A character that is no blank stops the trimming behind it. -/
theorem trimEnd_cons (hc : isBlank c = false) (b : List Char) : trimEnd (c :: b) = c :: trimEnd b := by
  rw [trimEnd, dropEndWhile, List.reverse_cons, List.dropWhile_append]
  split
  · next hempty =>
    have hrest : trimEnd b = [] := by rw [trimEnd, dropEndWhile, List.isEmpty_iff.mp hempty]; rfl
    rw [hrest, List.dropWhile_cons_of_neg (by rw [hc]; decide)]
    rfl
  · rw [List.reverse_append]
    rfl

/-- Whatever stands in front of it stays. -/
theorem trimEnd_append_cons (hc : isBlank c = false) (a b : List Char) :
    trimEnd (a ++ c :: b) = a ++ c :: trimEnd b := by
  rw [trimEnd, dropEndWhile, List.reverse_append, List.dropWhile_append, if_neg]
  · rw [List.reverse_append, List.reverse_reverse]
    exact congrArg (a ++ ·) (trimEnd_cons hc b)
  · -- the character itself is left
    rw [List.isEmpty_iff, List.dropWhile_eq_nil_iff]
    intro hall
    have hblank := hall c (by simp)
    rw [hc] at hblank
    cases hblank

/-- **Each side of a character that is no blank** is trimmed at its own end. -/
theorem trim_append_cons (hc : isBlank c = false) (a b : List Char) :
    trim (a ++ c :: b) = trimStart a ++ c :: trimEnd b := by
  have hstart : trimStart (a ++ c :: b) = trimStart a ++ c :: b := by
    rw [trimStart, List.dropWhile_append]
    split
    · next hempty =>
      have hfront : trimStart a = [] := List.isEmpty_iff.mp hempty
      rw [hfront, List.dropWhile_cons_of_neg (by rw [hc]; decide)]
      rfl
    · rfl
  rw [trim, hstart, trimEnd_append_cons hc]

/-- Trimming at the end leaves the start as it is. -/
theorem head?_trim (cs : List Char) : (trim cs).head? = (trimStart cs).head? := by
  rw [trim]
  cases hstart : trimStart cs with
  | nil => rfl
  | cons c rest =>
    have hc : isBlank c = false := by
      have hhead := List.head?_dropWhile_not isBlank cs
      rw [show cs.dropWhile isBlank = c :: rest from hstart] at hhead
      exact hhead
    rw [trimEnd_cons hc]
    rfl

/-- A text that ends with a carriage return is trimmed as it is without. -/
theorem trim_dropReturn (cs : List Char) : trim (dropReturn cs) = trim cs := by
  rw [dropReturn]
  split
  · next hlast =>
    have hblank : AllBlank ['\r'] := by
      intro c hc
      rw [List.mem_singleton.mp hc]
      decide
    obtain ⟨front, rfl⟩ := List.getLast?_eq_some_iff.mp hlast
    rw [List.dropLast_concat, trim_append hblank]
  · rfl

end LintPlan.Text
