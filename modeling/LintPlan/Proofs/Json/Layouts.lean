import LintPlan.Proofs.Json.Scalars

/-!
# Layouts

A value is written densely, or with each item on a line of its own. Both are the same printer with other blanks between the
parts, so what holds of the printer with any blanks holds of both.

* **`laidOut`** — the printer, for any blanks in front of an item and behind a colon.
* **`compactChars_eq`**, **`prettyChars_eq`** — the two layouts.
* **`laidOut_arr`**, **`laidOut_obj`** — a list and an object as members in a row between brackets.
-/

namespace LintPlan.Json

/-! ## §1 — layouts

Two printers write values, one without blanks and one over lines. Both are one printer whose blanks are parameters, so the
readers have to be proved right for that one only. -/

/-- How the parts of a value are set apart: what stands in front of an item on a level, and what stands behind a colon. -/
structure Layout where
  line : Nat → List Char
  gap : List Char
  line_blank : ∀ level, ∀ x ∈ line level, isJsonBlank x = true
  gap_blank : ∀ x ∈ gap, isJsonBlank x = true

/-- Everything on one line. -/
def Layout.dense : Layout := ⟨fun _ => [], [], nofun, nofun⟩

/-- Each item on a line of its own. -/
def Layout.airy : Layout where
  line := newLine
  gap := [' ']
  line_blank := by
    intro level x hx
    rcases List.mem_cons.mp hx with rfl | hx
    · rfl
    · rw [List.eq_of_mem_replicate hx]
      rfl
  gap_blank := List.forall_mem_singleton.mpr rfl

variable {l : Layout} {level : Nat}

mutual

/-- A value in a layout, on a level. -/
def laidOut (l : Layout) (level : Nat) : Json → List Char
  | .arr [] => ['[', ']']
  | .arr (j :: js) => '[' :: laidOutItems l (level + 1) (j :: js) ++ l.line level ++ [']']
  | .obj [] => ['\x7b', '\x7d']
  | .obj (e :: es) => '\x7b' :: laidOutEntries l (level + 1) (e :: es) ++ l.line level ++ ['\x7d']
  | .null => "null".toList
  | .bool b => (if b then "true" else "false").toList
  | .int i => intText i
  | .float x => floatText x
  | .str s => quotedText s
  | .date => "null".toList

/-- Items in a layout. -/
def laidOutItems (l : Layout) (level : Nat) : List Json → List Char
  | [] => []
  | [j] => l.line level ++ laidOut l level j
  | j :: js => l.line level ++ laidOut l level j ++ ',' :: laidOutItems l level js

/-- Entries in a layout. -/
def laidOutEntries (l : Layout) (level : Nat) : List (String × Json) → List Char
  | [] => []
  | [(k, j)] => l.line level ++ quotedText k ++ ':' :: l.gap ++ laidOut l level j
  | (k, j) :: rest =>
    l.line level ++ quotedText k ++ ':' :: l.gap ++ laidOut l level j ++ ',' :: laidOutEntries l level rest

end

mutual

/-- The dense printer writes the dense layout. By cases of the printer, with one lemma each for values, items and entries. -/
theorem compactChars_eq (level : Nat) : ∀ j, compactChars j = laidOut .dense level j
  | .arr [] => by simp [compactChars, compactItems, laidOut]
  | .arr (j :: js) => by
    rw [compactChars, laidOut, compactItems_eq (level + 1)]
    simp [Layout.dense]
  | .obj [] => by simp [compactChars, compactEntries, laidOut]
  | .obj (e :: es) => by
    rw [compactChars, laidOut, compactEntries_eq (level + 1)]
    simp [Layout.dense]
  | .null | .bool _ | .int _ | .float _ | .str _ | .date => by simp [compactChars, laidOut]

/-- Items without a gap. -/
theorem compactItems_eq (level : Nat) : ∀ js, compactItems js = laidOutItems .dense level js
  | [] => rfl
  | [j] => by
    rw [compactItems, laidOutItems, compactChars_eq level]
    rfl
  | j :: j' :: js => by
    rw [compactItems, laidOutItems, compactChars_eq level, compactItems_eq level]
    · rfl
    all_goals exact nofun

/-- Likewise entries. -/
theorem compactEntries_eq (level : Nat) : ∀ es, compactEntries es = laidOutEntries .dense level es
  | [] => rfl
  | [(k, j)] => by
    rw [compactEntries, laidOutEntries, compactChars_eq level]
    simp [Layout.dense]
  | (k, j) :: e :: es => by
    rw [compactEntries, laidOutEntries, compactChars_eq level, compactEntries_eq level]
    · simp [Layout.dense]
    all_goals exact nofun

end

mutual

/-- The printer with lines writes the airy layout, by the same cases. -/
theorem prettyChars_eq (level : Nat) : ∀ j, prettyChars level j = laidOut .airy level j
  | .arr [] => rfl
  | .arr (j :: js) => by
    rw [prettyChars, laidOut, prettyItems_eq (level + 1)]
    rfl
  | .obj [] => rfl
  | .obj (e :: es) => by
    rw [prettyChars, laidOut, prettyEntries_eq (level + 1)]
    rfl
  | .null | .bool _ | .int _ | .float _ | .str _ | .date => by simp [prettyChars, laidOut]

/-- Items one below the other, with a line between them. -/
theorem prettyItems_eq (level : Nat) : ∀ js, prettyItems level js = laidOutItems .airy level js
  | [] => rfl
  | [j] => by
    rw [prettyItems, laidOutItems, prettyChars_eq level]
    rfl
  | j :: j' :: js => by
    rw [prettyItems, laidOutItems, prettyChars_eq level, prettyItems_eq level]
    · rfl
    all_goals exact nofun

/-- Likewise entries. -/
theorem prettyEntries_eq (level : Nat) : ∀ es, prettyEntries level es = laidOutEntries .airy level es
  | [] => rfl
  | [(k, j)] => by
    rw [prettyEntries, laidOutEntries, prettyChars_eq level]
    simp [Layout.airy]
  | (k, j) :: e :: es => by
    rw [prettyEntries, laidOutEntries, prettyChars_eq level, prettyEntries_eq level]
    · simp [Layout.airy]
    all_goals exact nofun

end

/-! ## §2 — items and entries apart

Readers loop over members and the printer recurses over them. Here the text of a list is put as its first member and a sequence
of pieces that start with a comma, which is how the loops meet it. -/

/-- Things behind others, each with a comma in front. -/
def listed {α : Type} (l : Layout) (level : Nat) (text : α → List Char) (xs : List α) : List Char :=
  xs.flatMap fun x => ',' :: (l.line level ++ text x)

/-- Behind a comma and its line the first member, then the others. The text that follows is kept inside for rewriting from the
left. -/
theorem listed_cons {α : Type} (text : α → List Char) (x : α) (xs : List α) (cs : List Char) :
    listed l level text (x :: xs) ++ cs = ',' :: (l.line level ++ (text x ++ (listed l level text xs ++ cs))) := by
  simp [listed]

theorem length_listed_cons {α : Type} (text : α → List Char) (x : α) (xs : List α) :
    (listed l level text (x :: xs)).length = (l.line level).length + (text x).length + (listed l level text xs).length + 1 := by
  simp [listed]
  omega

/-- All members of a list or an object, with a comma between each and the next one. -/
def inARow {α : Type} (l : Layout) (level : Nat) (text : α → List Char) : List α → List Char
  | [] => []
  | x :: xs => l.line level ++ (text x ++ listed l level text xs)

/-- The items of a list are such a row. -/
theorem laidOutItems_eq (l : Layout) (level : Nat) (js : List Json) : laidOutItems l level js = inARow l level (laidOut l level) js := by
  induction js with
  | nil => rfl
  | cons j js ih =>
    cases js with
    | nil => simp [laidOutItems, inARow, listed]
    | cons j' js =>
      rw [laidOutItems, ih]
      · simp [inARow, listed]
      · exact nofun

/-- A key with its value. -/
def laidOutEntry (l : Layout) (level : Nat) (e : String × Json) : List Char :=
  quotedText e.1 ++ ':' :: (l.gap ++ laidOut l level e.2)

/-- The entries of an object are such a row. -/
theorem laidOutEntries_eq (l : Layout) (level : Nat) (es : List (String × Json)) :
    laidOutEntries l level es = inARow l level (laidOutEntry l level) es := by
  induction es with
  | nil => rfl
  | cons e es ih =>
    cases es with
    | nil => simp [laidOutEntries, laidOutEntry, inARow, listed]
    | cons e' es =>
      rw [laidOutEntries, ih]
      · simp [laidOutEntry, inARow, listed]
      · exact nofun

/-- A list in a layout: its items, and blanks in front of the closing bracket. -/
theorem laidOut_arr (l : Layout) (level : Nat) (items : List Json) :
    ∃ blanks, (∀ x ∈ blanks, isJsonBlank x = true) ∧
      laidOut l level (.arr items) = '[' :: (inARow l (level + 1) (laidOut l (level + 1)) items ++ (blanks ++ [']'])) := by
  cases items with
  | nil => exact ⟨[], List.forall_mem_nil _, rfl⟩
  | cons j js => exact ⟨l.line level, l.line_blank level, by simp [laidOut, laidOutItems_eq]⟩

theorem laidOut_obj (l : Layout) (level : Nat) (entries : List (String × Json)) :
    ∃ blanks, (∀ x ∈ blanks, isJsonBlank x = true) ∧
      laidOut l level (.obj entries) =
        '\x7b' :: (inARow l (level + 1) (laidOutEntry l (level + 1)) entries ++ (blanks ++ ['\x7d'])) := by
  cases entries with
  | nil => exact ⟨[], List.forall_mem_nil _, rfl⟩
  | cons e es => exact ⟨l.line level, l.line_blank level, by simp [laidOut, laidOutEntries_eq]⟩

end LintPlan.Json
